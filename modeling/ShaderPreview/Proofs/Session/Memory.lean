import Mathlib.Data.List.Induction
import ShaderPreview.Proofs.Session.Frames

/-!
# Stored requests

A loop stores the request of its last attempt and that of the session. An attempt replaces both.
Between attempts only the canvas of the stored request changes, by the sizes that are reported.
-/

namespace ShaderPreview

variable {B : Backend} {H : FrameHost} {α : Type}

/-! ### What operations tell -/

def Operation.start? : Operation → Option RenderRequest
  | .start request _ => some request
  | _ => none

def Operation.source? : Operation → Option String
  | .start request _ => some request.source
  | .reload source _ => some source
  | _ => none

def Operation.canvas? : Operation → Option CanvasSize
  | .start request _ => some request.canvas
  | .resize size _ => some size
  | .setCanvas size => some size
  | _ => none

def Operation.report? (operation : Operation) : Option CanvasSize :=
  operation.canvas?.filter fun size => !size.isEmpty

def Operation.time? : Operation → Option Nat
  | .start _ now | .reload _ now | .resize _ now => some now
  | _ => none

theorem Operation.report?_eq_some {operation : Operation} {size : CanvasSize} :
    operation.report? = some size ↔ operation.canvas? = some size ∧ size.isEmpty = false := by
  rw [report?, Option.filter_eq_some_iff, Bool.not_eq_true']

theorem Operation.report?_empty {operation : Operation} {size : CanvasSize}
    (h : operation.canvas? = some size) (he : size.isEmpty = true) : operation.report? = none := by
  simp only [report?, h, Option.filter_some, he, Bool.not_true, Bool.false_eq_true, if_false]

section

variable {β : Type} {tells : β → Option α}

/-- Value of the last element that has one. -/
def latest (tells : β → Option α) (history : List β) : Option α := history.reverse.findSome? tells

theorem latest_append (tells : β → Option α) (earlier later : List β) :
    latest tells (earlier ++ later) = (latest tells later).or (latest tells earlier) := by
  rw [latest, List.reverse_append, List.findSome?_append]
  rfl

theorem latest_singleton (tells : β → Option α) (last : β) : latest tells [last] = tells last :=
  List.findSome?_singleton

theorem latest_told {last : β} {told : α} (history : List β) (h : tells last = some told) :
    latest tells (history ++ [last]) = some told := by
  rw [latest_append, latest_singleton, h, Option.some_or]

theorem latest_untold {last : β} (history : List β) (h : tells last = none) :
    latest tells (history ++ [last]) = latest tells history := by
  rw [latest_append, latest_singleton, h, Option.none_or]

theorem latest_unchanged (history : List β) {later : List β}
    (h : ∀ next ∈ later, tells next = none ∨ tells next = latest tells history) :
    latest tells (history ++ later) = latest tells history := by
  induction later using List.reverseRecOn with
  | nil => rw [List.append_nil]
  | append_singleton later last ih =>
    obtain ⟨hlater, hlast⟩ := List.forall_mem_append.1 h
    rw [← List.append_assoc, latest_append, ih hlater, latest_singleton]
    obtain hnone | hagain := hlast last List.mem_cons_self
    · rw [hnone, Option.none_or]
    · rw [hagain, Option.or_self]

end

/-! ### Runs from the start -/

namespace RenderLoop

theorem run_snoc (frontEnd : FrontEnd) (ledger : Ledger H) (operations : List Operation)
    (operation : Operation) (loop : RenderLoop B H) :
    loop.run frontEnd ledger (operations ++ [operation]) =
      (loop.run frontEnd ledger operations).perform frontEnd ledger operation := by
  rw [run_append]
  rfl

/-- Induction over runs, with the list of operations performed so far. -/
theorem run_induction (frontEnd : FrontEnd) (ledger : Ledger H) (backend : B.State)
    (holds : List Operation → RenderLoop B H → Prop)
    (initial : holds [] (.idle backend ledger.initial))
    (step : ∀ operations operation loop,
      (idle backend ledger.initial).run frontEnd ledger operations = loop → loop.Settled →
      holds operations loop →
      holds (operations ++ [operation]) (loop.perform frontEnd ledger operation))
    (operations : List Operation) :
    holds operations ((idle backend ledger.initial).run frontEnd ledger operations) := by
  -- the operations already performed grow at their end while the others are taken from the front
  suffices hlater : ∀ later earlier,
      holds earlier ((idle backend ledger.initial).run frontEnd ledger earlier) →
      holds (earlier ++ later)
        ((idle backend ledger.initial).run frontEnd ledger (earlier ++ later)) from
    hlater operations [] initial
  intro later
  induction later with
  | nil =>
    intro earlier hearlier
    rw [List.append_nil]
    exact hearlier
  | cons operation later ih =>
    intro earlier hearlier
    have hsettled := (Orderly.reached frontEnd ledger backend earlier).settled
    have hnext := step earlier operation _ rfl hsettled hearlier
    rw [← run_snoc] at hnext
    rw [List.append_cons]
    exact ih _ hnext

/-! ### After an attempt -/

structure KeepsInputs (before after : RenderLoop B H) : Prop where
  lastRequest : after.lastRequest = before.lastRequest
  pointer : after.pointer = before.pointer

theorem keepsInputs_transition (state : LoopState) (loop : RenderLoop B H) :
    loop.KeepsInputs (loop.transition state) := by
  unfold transition
  split <;> exact ⟨rfl, rfl⟩

theorem keepsInputs_retire (loop : RenderLoop B H) : loop.KeepsInputs loop.retire := by
  cases h : loop.session with
  | none =>
    rw [retire_none h]
    exact ⟨rfl, rfl⟩
  | some session =>
    have hlast (state : LoopState) (loop : RenderLoop B H) :=
      (keepsInputs_transition state loop).lastRequest
    have hpointer (state : LoopState) (loop : RenderLoop B H) :=
      (keepsInputs_transition state loop).pointer
    cases hf : session.frame <;>
      exact ⟨by simp only [retire, h, hf, hlast, record],
        by simp only [retire, h, hf, hpointer, record]⟩

theorem session_retire (loop : RenderLoop B H) : loop.retire.session = none := by
  cases h : loop.session with
  | none => rw [retire_none h, h]
  | some session =>
    cases hf : session.frame <;>
      simp only [retire, h, hf, session_transition, record]

theorem session_atAcquire (request : RenderRequest) (loop : RenderLoop B H) :
    (loop.atAcquire request).session = none := by
  rw [atAcquire, session_transition]
  exact session_retire loop

theorem keepsInputs_start (frontEnd : FrontEnd) (request : RenderRequest) (now : Nat)
    (loop : RenderLoop B H) :
    ({ loop with lastRequest := some request } : RenderLoop B H).KeepsInputs
      (loop.start frontEnd request now) := by
  let retired : RenderLoop B H := { loop.retire with lastRequest := some request }
  obtain ⟨hlast, hpointer⟩ : retired.KeepsInputs (loop.atAcquire request) :=
    keepsInputs_transition _ retired
  have hretire := (keepsInputs_retire loop).pointer
  have hattempt := start_attempted frontEnd request now loop
  generalize loop.start frontEnd request now = next at hattempt
  cases hattempt with
  | unavailable => exact ⟨hlast, hpointer.trans hretire⟩
  | stopped => exact ⟨hlast, hpointer.trans hretire⟩
  | running => exact ⟨hlast, hpointer.trans hretire⟩

theorem request_start {frontEnd : FrontEnd} {request : RenderRequest} {now : Nat}
    {loop : RenderLoop B H} {session : Session B}
    (h : (loop.start frontEnd request now).session = some session) :
    session.request = request := by
  have habsent := session_atAcquire request loop
  have hattempt := start_attempted frontEnd request now loop
  generalize loop.start frontEnd request now = next at hattempt h
  cases hattempt with
  | unavailable => cases habsent.symm.trans h
  | stopped => cases habsent.symm.trans h
  | running =>
    obtain rfl := Option.some.inj h
    rfl

theorem perform_attempt_at (frontEnd : FrontEnd) (ledger : Ledger H) {operation : Operation}
    {loop : RenderLoop B H} {request : RenderRequest}
    (h : loop.attempt? operation = some request) :
    ∃ now, operation.time? = some now ∧
      loop.perform frontEnd ledger operation = loop.start frontEnd request now := by
  have honly {other : RenderRequest} (hother : loop.attempt? operation = some other) :
      request = other := Option.some.inj (h.symm.trans hother)
  cases operation with
  | start given now =>
    obtain rfl := honly rfl
    exact ⟨now, rfl, rfl⟩
  | reload source now =>
    obtain ⟨other, hother, hstart⟩ | ⟨hnone, _⟩ := loop.reload_cases frontEnd ledger source now
    · obtain rfl := honly hother
      exact ⟨now, rfl, hstart⟩
    · cases hnone.symm.trans h
  | resize size now =>
    obtain ⟨other, hother, hstart⟩ | ⟨hnone, _⟩ := loop.resize_cases frontEnd ledger size now
    · obtain rfl := honly hother
      exact ⟨now, rfl, hstart⟩
    · cases hnone.symm.trans h
  | _ => cases h

/-! ### Between attempts -/

theorem keepsInputs_onFrame (frame : FrameId) (now : Nat) (loop : RenderLoop B H) :
    loop.KeepsInputs (loop.onFrame frame now) := by
  have hdelivered := onFrame_delivered frame now loop
  generalize loop.onFrame frame now = next at hdelivered
  cases hdelivered with
  | stale => exact ⟨rfl, rfl⟩
  | drawn => exact ⟨rfl, rfl⟩
  | failed => exact ⟨rfl, rfl⟩
  | @exhausted session =>
    obtain ⟨hlast, hpointer⟩ :=
      keepsInputs_retire (loop.drew session now (session.drawFailures + 1))
    exact ⟨hlast, hpointer⟩

/-- The operation resizes to the canvas of the running session. -/
def ResizesToCurrent (operation : Operation) (loop : RenderLoop B H) : Prop :=
  ∃ size now, operation = .resize size now ∧ loop.session.map (·.request.canvas) = some size

theorem lastRequest_setCanvas {size : CanvasSize} (h : size.isEmpty = false)
    (loop : RenderLoop B H) : (loop.setCanvas size).lastRequest =
      loop.lastRequest.map fun request => { request with canvas := size } := by
  simp only [setCanvas, h, Bool.false_eq_true, if_false]

theorem lastRequest_setCanvas_empty {size : CanvasSize} (h : size.isEmpty = true)
    (loop : RenderLoop B H) : (loop.setCanvas size).lastRequest = loop.lastRequest := by
  simp only [setCanvas, h, if_true]

theorem lastRequest_unasked (frontEnd : FrontEnd) (ledger : Ledger H) {operation : Operation}
    {loop : RenderLoop B H} (h : loop.attempt? operation = none) :
    let next := loop.perform frontEnd ledger operation
    (next.lastRequest = loop.lastRequest ∧
      (operation.report? = none ∨ loop.ResizesToCurrent operation)) ∨
    ∃ size, operation.report? = some size ∧ ¬ loop.ResizesToCurrent operation ∧
      next.lastRequest = loop.lastRequest.map fun request => { request with canvas := size } := by
  intro next
  cases operation with
  | start request now => cases h
  | reload source now =>
    have hlast : loop.lastRequest = none := Option.map_eq_none_iff.1 h
    refine .inl ⟨?_, .inl rfl⟩
    simp only [next, perform, reload, hlast]
  | resize size now =>
    cases hsize : size.isEmpty with
    | true =>
      refine .inl ⟨?_, .inl (Operation.report?_empty rfl hsize)⟩
      simp only [next, perform, onResize, hsize, if_true]
    | false =>
      have hreport : (Operation.resize size now).report? = some size :=
        Operation.report?_eq_some.2 ⟨rfl, hsize⟩
      cases hsession : loop.session with
      | none =>
        have hidle : next = loop.setCanvas size := by
          simp only [next, perform, onResize, hsize, hsession, Bool.false_eq_true, if_false]
        refine .inr ⟨size, hreport, ?_, hidle ▸ lastRequest_setCanvas hsize loop⟩
        rintro ⟨other, time, _, hcanvas⟩
        rw [hsession] at hcanvas
        cases hcanvas
      | some session =>
        -- to another canvas the resize would be an attempt
        have hcanvas : session.request.canvas = size := by
          by_cases hsame : session.request.canvas = size
          · exact hsame
          · simp only [attempt?, hsize, hsession, hsame, Bool.false_eq_true, if_false,
              Option.bind_some, reduceCtorEq] at h
        refine .inl ⟨?_, .inr ⟨size, now, rfl, ?_⟩⟩
        · simp only [next, perform, onResize, hsize, hsession, hcanvas, Bool.false_eq_true,
            if_false, if_true]
        · rw [hsession, Option.map_some, hcanvas]
  | setCanvas size =>
    cases hsize : size.isEmpty with
    | true =>
      exact .inl ⟨lastRequest_setCanvas_empty hsize loop, .inl (Operation.report?_empty rfl hsize)⟩
    | false =>
      have hreport : (Operation.setCanvas size).report? = some size :=
        Operation.report?_eq_some.2 ⟨rfl, hsize⟩
      refine .inr ⟨size, hreport, ?_, lastRequest_setCanvas hsize loop⟩
      rintro ⟨other, time, heq, _⟩
      cases heq
  | pointerMoved x y => exact .inl ⟨rfl, .inl rfl⟩
  | pointerButton pressed => exact .inl ⟨rfl, .inl rfl⟩
  | stop => exact .inl ⟨(keepsInputs_retire loop).lastRequest, .inl rfl⟩
  | frame frame now => exact .inl ⟨(keepsInputs_onFrame frame now _).lastRequest, .inl rfl⟩

theorem lastRequest_canvas (frontEnd : FrontEnd) (ledger : Ledger H) {operation : Operation}
    {loop : RenderLoop B H} (h : loop.attempt? operation = none) :
    ∃ canvas : RenderRequest → CanvasSize,
      (loop.perform frontEnd ledger operation).lastRequest =
        loop.lastRequest.map fun request => { request with canvas := canvas request } := by
  obtain ⟨hsame, _⟩ | ⟨size, _, _, hmap⟩ := lastRequest_unasked frontEnd ledger h
  · refine ⟨fun request => request.canvas, ?_⟩
    rw [hsame]
    exact Option.map_id'.symm
  · exact ⟨fun _ => size, hmap⟩

end RenderLoop

/-- Equal up to the pending frame and the failure counter. -/
def Session.Continues (later earlier : Session B) : Prop :=
  ∃ frame failures, later = { earlier with frame := frame, drawFailures := failures }

namespace RenderLoop

theorem session_unasked (frontEnd : FrontEnd) (ledger : Ledger H) {operation : Operation}
    {loop : RenderLoop B H} (h : loop.attempt? operation = none) {session : Session B}
    (hsession : (loop.perform frontEnd ledger operation).session = some session) :
    ∃ earlier, loop.session = some earlier ∧ session.Continues earlier := by
  have hself : session.Continues session := ⟨session.frame, session.drawFailures, rfl⟩
  obtain ⟨request, now, hsome, _⟩ | ⟨frame, now, rfl⟩ | rfl | ⟨_, _, _, _, hquiet⟩ :=
    loop.perform_cases frontEnd ledger operation
  · rw [h] at hsome
    cases hsome
  · let delivered : RenderLoop B H := { loop with host := ledger.deliver frame loop.host }
    have hdelivered : Delivered frame now delivered (delivered.onFrame frame now) :=
      onFrame_delivered frame now delivered
    change (delivered.onFrame frame now).session = some session at hsession
    generalize delivered.onFrame frame now = next at hdelivered hsession
    cases hdelivered with
    | stale => exact ⟨session, hsession, hself⟩
    | @drawn earlier running =>
      obtain rfl := Option.some.inj hsession
      exact ⟨earlier, running, _, _, rfl⟩
    | @failed earlier failure running =>
      obtain rfl := Option.some.inj hsession
      exact ⟨earlier, running, _, _, rfl⟩
    | exhausted =>
      rw [session_retire] at hsession
      cases hsession
  · cases (session_retire loop).symm.trans hsession
  · rw [hquiet] at hsession
    exact ⟨session, hsession, hself⟩

end RenderLoop

end ShaderPreview
