import ShaderPreview.Proofs.Session.Inputs

/-!
# Canvas of a reload

A reload uses the canvas of the stored request, which every operation that reports a size updates,
except for a resize to the canvas of the running session: it returns early and leaves an older
stored size in place.
-/

namespace ShaderPreview

variable {B : Backend} {H : FrameHost}

/-! ### Reports that are ignored -/

/-- The operation reports the canvas of the running session while the stored request has a different
one. The report is then ignored. -/
def RenderLoop.IgnoresReport (operation : Operation) (loop : RenderLoop B H) : Prop :=
  loop.ResizesToCurrent operation ∧ ∃ size, operation.report? = some size ∧
    loop.lastRequest.map (·.canvas) ≠ some size

/-- The last canvas report of the run was ignored. -/
def ReportIgnored (frontEnd : FrontEnd) (ledger : Ledger H) (start : RenderLoop B H)
    (operations : List Operation) : Prop :=
  ∃ earlier operation later, operations = earlier ++ operation :: later ∧
    (start.run frontEnd ledger earlier).IgnoresReport operation ∧
    ∀ other ∈ later, other.report? = none

section

variable {frontEnd : FrontEnd} {ledger : Ledger H} {start : RenderLoop B H}
  {operations : List Operation} {operation : Operation}

theorem append_split {earlier later : List Operation} {splitting : Operation}
    (h : operations ++ [operation] = earlier ++ splitting :: later) :
    (operations = earlier ∧ operation = splitting ∧ later = []) ∨
      ∃ between, later = between ++ [operation] ∧ operations = earlier ++ splitting :: between := by
  obtain rfl | ⟨between, last, rfl⟩ := List.eq_nil_or_concat later
  · obtain ⟨hearlier, hlast⟩ := List.append_inj' h rfl
    exact .inl ⟨hearlier, List.singleton_inj.1 hlast, rfl⟩
  · rw [List.concat_eq_append, ← List.cons_append, ← List.append_assoc] at h
    obtain ⟨hearlier, hlast⟩ := List.append_inj' h rfl
    obtain rfl := List.singleton_inj.1 hlast
    exact .inr ⟨between, List.concat_eq_append, hearlier⟩

theorem reportIgnored_append : ReportIgnored frontEnd ledger start (operations ++ [operation]) ↔
    (start.run frontEnd ledger operations).IgnoresReport operation ∨
      (ReportIgnored frontEnd ledger start operations ∧ operation.report? = none) := by
  constructor
  · rintro ⟨earlier, reporting, later, hsplit, hignores, hlater⟩
    obtain ⟨rfl, rfl, rfl⟩ | ⟨between, rfl, hbetween⟩ := append_split hsplit
    · exact .inl hignores
    · obtain ⟨hbefore, hlast⟩ := List.forall_mem_append.1 hlater
      exact .inr ⟨⟨earlier, reporting, between, hbetween, hignores, hbefore⟩,
        hlast _ (List.mem_singleton_self _)⟩
  · rintro (hignores | ⟨⟨earlier, reporting, later, hsplit, hignores, hlater⟩, hnone⟩)
    · exact ⟨operations, operation, [], rfl, hignores, nofun⟩
    · refine ⟨earlier, reporting, later ++ [operation], ?_, hignores, ?_⟩
      · rw [hsplit, List.append_assoc, List.cons_append]
      · exact List.forall_mem_append.2 ⟨hlater, List.forall_mem_singleton.2 hnone⟩

theorem reportIgnored_reported {size : CanvasSize} (h : operation.report? = some size) :
    ReportIgnored frontEnd ledger start (operations ++ [operation]) ↔
      (start.run frontEnd ledger operations).IgnoresReport operation := by
  rw [reportIgnored_append, h]
  simp only [reduceCtorEq, and_false, or_false]

theorem reportIgnored_unreported (h : operation.report? = none) :
    ReportIgnored frontEnd ledger start (operations ++ [operation]) ↔
      ReportIgnored frontEnd ledger start operations := by
  have hnot : ¬ (start.run frontEnd ledger operations).IgnoresReport operation := by
    rintro ⟨_, size, hsize, _⟩
    rw [h] at hsize
    cases hsize
  rw [reportIgnored_append]
  simp only [hnot, h, and_true, false_or]

end

/-! ### The canvas of the last request -/

namespace RenderLoop

section

variable {operation : Operation} {loop : RenderLoop B H} {request : RenderRequest}

theorem attempt_reported (h : loop.attempt? operation = some request) {size : CanvasSize}
    (hreport : operation.report? = some size) :
    request.canvas = size ∧ ¬ loop.ResizesToCurrent operation := by
  obtain ⟨hcanvas, hsize⟩ := Operation.report?_eq_some.1 hreport
  cases operation with
  | start given now =>
    cases h
    cases hcanvas
    refine ⟨rfl, ?_⟩
    rintro ⟨other, time, heq, _⟩
    cases heq
  | resize other now =>
    cases hcanvas
    simp only [attempt?, hsize, Bool.false_eq_true, if_false] at h
    obtain ⟨session, hsession, h⟩ := Option.bind_eq_some_iff.1 h
    split at h
    · cases h
    · rename_i hother
      cases h
      refine ⟨rfl, ?_⟩
      rintro ⟨_, _, heq, hsame⟩
      cases heq
      rw [hsession, Option.map_some] at hsame
      exact hother (Option.some.inj hsame)
  | _ => first | cases h | cases hcanvas

theorem attempt_unreported (h : loop.attempt? operation = some request)
    (hreport : operation.report? = none) :
    (operation.start? = some request ∧ request.canvas.isEmpty = true) ∨
      operation.start? = none ∧ loop.lastRequest.map (·.canvas) = some request.canvas := by
  cases operation with
  | start given now =>
    cases h
    refine .inl ⟨rfl, ?_⟩
    cases hempty : request.canvas.isEmpty with
    | true => rfl
    | false =>
      have hsome : (Operation.start request now).report? = some request.canvas :=
        Operation.report?_eq_some.2 ⟨rfl, hempty⟩
      rw [hsome] at hreport
      cases hreport
  | reload source now =>
    obtain ⟨last, hlast, rfl⟩ := Option.map_eq_some_iff.1 h
    exact .inr ⟨rfl, by rw [hlast, Option.map_some]⟩
  | resize size now =>
    cases hempty : size.isEmpty with
    | true =>
      rw [attempt?, if_pos hempty] at h
      cases h
    | false =>
      have hsome : (Operation.resize size now).report? = some size :=
        Operation.report?_eq_some.2 ⟨rfl, hempty⟩
      rw [hsome] at hreport
      cases hreport
  | _ => cases h

end

section

variable {frontEnd : FrontEnd} {ledger : Ledger H} {operation : Operation}
  {loop : RenderLoop B H} {request : RenderRequest}

theorem canvas_reported {size : CanvasSize} (hreport : operation.report? = some size)
    (hnext : (loop.perform frontEnd ledger operation).lastRequest = some request) :
    (request.canvas = size ∧ ¬ loop.IgnoresReport operation) ∨
      request.canvas ≠ size ∧ loop.IgnoresReport operation ∧ operation.start? = none ∧
        loop.lastRequest = some request := by
  cases hattempt : loop.attempt? operation with
  | some asked =>
    obtain ⟨now, hstart⟩ := loop.perform_attempt frontEnd ledger hattempt
    rw [hstart, (loop.keepsInputs_start frontEnd asked now).lastRequest] at hnext
    obtain rfl := Option.some.inj hnext
    obtain ⟨hcanvas, hresizes⟩ := attempt_reported hattempt hreport
    exact .inl ⟨hcanvas, fun hignores => hresizes hignores.1⟩
  | none =>
    obtain ⟨hsame, hnone | hcurrent⟩ | ⟨other, hother, hresizes, hmap⟩ :=
      lastRequest_unasked frontEnd ledger hattempt
    · rw [hnone] at hreport
      cases hreport
    · rw [hsame] at hnext
      have hkept : loop.lastRequest.map (·.canvas) = some request.canvas := by
        rw [hnext, Option.map_some]
      by_cases hcanvas : request.canvas = size
      · refine .inl ⟨hcanvas, ?_⟩
        rintro ⟨_, other, hother, hdiffers⟩
        obtain rfl := Option.some.inj (hreport.symm.trans hother)
        rw [hkept, hcanvas] at hdiffers
        exact hdiffers rfl
      · have hdiffers : loop.lastRequest.map (·.canvas) ≠ some size := by
          rw [hkept]
          exact fun heq => hcanvas (Option.some.inj heq)
        exact .inr ⟨hcanvas, ⟨hcurrent, size, hreport, hdiffers⟩, start?_unasked hattempt, hnext⟩
    · obtain rfl := Option.some.inj (hreport.symm.trans hother)
      rw [hmap] at hnext
      obtain ⟨last, _, rfl⟩ := Option.map_eq_some_iff.1 hnext
      exact .inl ⟨rfl, fun hignores => hresizes hignores.1⟩

theorem canvas_unreported (hreport : operation.report? = none)
    (hnext : (loop.perform frontEnd ledger operation).lastRequest = some request) :
    (operation.start? = some request ∧ request.canvas.isEmpty = true) ∨
      operation.start? = none ∧ loop.lastRequest.map (·.canvas) = some request.canvas := by
  cases hattempt : loop.attempt? operation with
  | some asked =>
    obtain ⟨now, hstart⟩ := loop.perform_attempt frontEnd ledger hattempt
    rw [hstart, (loop.keepsInputs_start frontEnd asked now).lastRequest] at hnext
    obtain rfl := Option.some.inj hnext
    exact attempt_unreported hattempt hreport
  | none =>
    obtain ⟨hsame, _⟩ | ⟨size, hsize, _⟩ := lastRequest_unasked frontEnd ledger hattempt
    · rw [hsame] at hnext
      refine .inr ⟨start?_unasked hattempt, ?_⟩
      rw [hnext, Option.map_some]
    · rw [hreport] at hsize
      cases hsize

end

end RenderLoop

/-! ### Runs -/

/-- The canvas of the stored request is the one reported last, unless that report was ignored. An
empty canvas comes from the last start. -/
structure LatestCanvas (frontEnd : FrontEnd) (ledger : Ledger H) (start : RenderLoop B H)
    (operations : List Operation) (canvas : CanvasSize) : Prop where
  reported : latest Operation.report? operations = some canvas ↔
    canvas.isEmpty = false ∧ ¬ ReportIgnored frontEnd ledger start operations
  empty : canvas.isEmpty = true → ∃ given, latest Operation.start? operations = some given ∧
    given.canvas = canvas

section

variable {frontEnd : FrontEnd} {ledger : Ledger H} {start : RenderLoop B H}
  {operations : List Operation} {operation : Operation} {loop : RenderLoop B H}
  {request : RenderRequest}

theorem latestCanvas_reported (hloop : start.run frontEnd ledger operations = loop)
    (h : ∀ last, loop.lastRequest = some last →
      LatestCanvas frontEnd ledger start operations last.canvas)
    {size : CanvasSize} (hreport : operation.report? = some size)
    (hnext : (loop.perform frontEnd ledger operation).lastRequest = some request) :
    LatestCanvas frontEnd ledger start (operations ++ [operation]) request.canvas := by
  have hsize : size.isEmpty = false := (Operation.report?_eq_some.1 hreport).2
  have hlatest := latest_told operations hreport
  have hignored : ReportIgnored frontEnd ledger start (operations ++ [operation]) ↔
      loop.IgnoresReport operation := by
    rw [reportIgnored_reported hreport, hloop]
  obtain ⟨rfl, hresizes⟩ | ⟨hdiffers, hignores, hstart, hsame⟩ :=
    RenderLoop.canvas_reported hreport hnext
  · refine ⟨?_, fun hempty => ?_⟩
    · rw [hlatest, hignored]
      exact iff_of_true rfl ⟨hsize, hresizes⟩
    · rw [hsize] at hempty
      cases hempty
  · refine ⟨?_, fun hempty => ?_⟩
    · rw [hlatest, hignored]
      exact iff_of_false (fun heq => hdiffers (Option.some.inj heq).symm)
        fun hwell => hwell.2 hignores
    · rw [latest_untold operations hstart]
      exact (h request hsame).empty hempty

theorem latestCanvas_unreported
    (h : ∀ last, loop.lastRequest = some last →
      LatestCanvas frontEnd ledger start operations last.canvas)
    (hreport : operation.report? = none)
    (hnext : (loop.perform frontEnd ledger operation).lastRequest = some request) :
    LatestCanvas frontEnd ledger start (operations ++ [operation]) request.canvas := by
  have hlatest := latest_untold operations hreport
  obtain ⟨hstart, hempty⟩ | ⟨hstart, hcanvas⟩ := RenderLoop.canvas_unreported hreport hnext
  · refine ⟨?_, fun _ => ⟨request, latest_told operations hstart, rfl⟩⟩
    refine iff_of_false (fun hlast => ?_) fun hwell => ?_
    · -- a report has an area
      obtain ⟨reporting, _, hreporting⟩ := List.exists_of_findSome?_eq_some hlast
      rw [(Operation.report?_eq_some.1 hreporting).2] at hempty
      cases hempty
    · rw [hwell.1] at hempty
      cases hempty
  · obtain ⟨last, hlast, hsame⟩ := Option.map_eq_some_iff.1 hcanvas
    obtain ⟨hreported, hfirst⟩ := h last hlast
    rw [← hsame]
    refine ⟨?_, ?_⟩
    · rw [hlatest, reportIgnored_unreported hreport]
      exact hreported
    · rw [latest_untold operations hstart]
      exact hfirst

end

theorem latestCanvas_run (frontEnd : FrontEnd) (ledger : Ledger H) (backend : B.State)
    (operations : List Operation) :
    let start := RenderLoop.idle backend ledger.initial
    ∀ request, (start.run frontEnd ledger operations).lastRequest = some request →
      LatestCanvas frontEnd ledger start operations request.canvas := by
  intro start
  let sized (operations : List Operation) (loop : RenderLoop B H) : Prop :=
    ∀ request, loop.lastRequest = some request →
      LatestCanvas frontEnd ledger start operations request.canvas
  refine RenderLoop.run_induction frontEnd ledger backend sized nofun ?_ operations
  intro operations operation loop hloop _ h request hnext
  cases hreport : operation.report? with
  | none => exact latestCanvas_unreported h hreport hnext
  | some size => exact latestCanvas_reported hloop h hreport hnext

/-! ### Reloads -/

theorem plan_canvas {request : RenderRequest} {kind : ShaderKind} {canvas : CanvasSize} :
    (.acquire canvas ∈ request.plan kind → canvas = request.canvas) ∧
      ∀ textured, .bind canvas textured ∈ request.plan kind → canvas = request.canvas := by
  by_cases hkind : kind = .fragmentOnly <;>
    simp +contextual [RenderRequest.plan, RenderRequest.stageCalls, compileCalls,
      RenderRequest.bindCalls, hkind]

/-- A reload acquires the device and binds for the canvas reported last by a start, a resize or a
stored size, unless that report was ignored or the last start had an empty canvas. Before the first
start a reload makes no attempt. -/
theorem reload_canvas (frontEnd : FrontEnd) (ledger : Ledger H) (backend : B.State)
    (operations : List Operation) (source : String) (now : Nat) :
    let start := RenderLoop.idle backend ledger.initial
    let before := start.run frontEnd ledger operations
    let after := before.perform frontEnd ledger (.reload source now)
    match before.attempt? (.reload source now) with
    | none => latest Operation.start? operations = none ∧ after = before
    | some request => LatestCanvas frontEnd ledger start operations request.canvas ∧
      ∃ events, after.trace = before.retire.trace ++ events ∧
        (∃ available, .acquire request.canvas available ∈ events) ∧
        (∀ canvas available, .acquire canvas available ∈ events → canvas = request.canvas) ∧
        ∀ canvas textures result, .bind canvas textures result ∈ events →
          canvas = request.canvas := by
  intro start before after
  cases hlast : before.lastRequest with
  | none =>
    have hattempt : before.attempt? (.reload source now) = none := by
      rw [RenderLoop.attempt?, hlast, Option.map_none]
    have hstored := StoredInputs.run frontEnd ledger backend operations
    rw [hattempt]
    refine ⟨hstored.unstarted hlast, ?_⟩
    simp only [after, RenderLoop.perform, RenderLoop.reload, hlast]
  | some last =>
    have hattempt : before.attempt? (.reload source now) = some { last with source := source } := by
      rw [RenderLoop.attempt?, hlast, Option.map_some]
    obtain ⟨time, hstart⟩ := before.perform_attempt frontEnd ledger hattempt
    obtain ⟨turn, events, hturn, htrace, hends⟩ :=
      before.start_ends frontEnd { last with source := source } time
    obtain ⟨hacquire, hplan⟩ := ends_calls hturn hends
    rw [hattempt]
    refine ⟨latestCanvas_run frontEnd ledger backend operations last hlast, turn ++ events, ?_, ?_,
      fun canvas available he => ?_, fun canvas textures result he => ?_⟩
    · show (before.perform frontEnd ledger (.reload source now)).trace = _
      rw [hstart]
      exact htrace
    · obtain ⟨event, he, hcall⟩ := List.mem_filterMap.1 hacquire
      cases event with
      | acquire canvas available =>
        cases hcall
        exact ⟨available, he⟩
      | _ => cases hcall
    · exact plan_canvas.1 (hplan.subset (mem_calls he rfl))
    · exact plan_canvas.2 _ (hplan.subset (mem_calls he rfl))

/-- Start, store another size, then resize to the size of the session: the reload uses the stored
size. -/
theorem reload_canvas_recorded :
    let operations : List Operation :=
      [.start pointerRequest 0, .setCanvas ⟨800, 600⟩, .resize ⟨640, 360⟩ 1]
    let start : RenderLoop (Rehearsal.backend Wgsl.frontEnd) FrameRegister.host :=
      .idle Rehearsal.compiled FrameRegister.ledger.initial
    let after := Rehearsal.compiled.run Wgsl.frontEnd (operations ++ [.reload stagedShader 2])
    latest Operation.report? operations = some ⟨640, 360⟩ ∧
      ReportIgnored Wgsl.frontEnd FrameRegister.ledger start operations ∧
      ∃ available, .acquire ⟨800, 600⟩ available ∈ after.trace := by
  have hcanvas :
      let operations : List Operation :=
        [.start pointerRequest 0, .setCanvas ⟨800, 600⟩, .resize ⟨640, 360⟩ 1]
      let before := Rehearsal.compiled.run Wgsl.frontEnd operations
      (before.attempt? (.reload stagedShader 2)).map (·.canvas) = some ⟨800, 600⟩ := by
    decide +kernel
  generalize Wgsl.frontEnd = frontEnd at hcanvas ⊢
  intro operations start after
  obtain ⟨request, hattempt, hrequest⟩ := Option.map_eq_some_iff.1 hcanvas
  have hreload := reload_canvas (B := Rehearsal.backend frontEnd) frontEnd FrameRegister.ledger
    Rehearsal.compiled operations stagedShader 2
  dsimp only at hreload
  rw [show RenderLoop.attempt? (.reload stagedShader 2) (RenderLoop.run _ _ operations _) =
    some request from hattempt] at hreload
  obtain ⟨hcanvas, events, htrace, ⟨available, hacquire⟩, _⟩ := hreload
  rw [hrequest] at hcanvas hacquire
  have hlatest : latest Operation.report? operations = some ⟨640, 360⟩ := by decide +kernel
  refine ⟨hlatest, Classical.byContradiction fun hresizes => ?_, available, ?_⟩
  · have hother := hcanvas.reported.2 ⟨by decide, hresizes⟩
    rw [hlatest] at hother
    exact absurd hother (by decide)
  · rw [show after = _ from RenderLoop.run_snoc frontEnd _ operations _ _, htrace]
    exact List.mem_append_right _ hacquire

end ShaderPreview
