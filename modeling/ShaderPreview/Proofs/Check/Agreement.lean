import ShaderPreview.Proofs.Check.Verdict
import ShaderPreview.Proofs.Session.Plan

/-!
# Agreement of checks and attempts

Check and attempt are separate implementations. With a backend that compiles by the front end, an
attempt reaches `binding` exactly if the check passes, and otherwise delivers the errors of the
check.
-/

namespace ShaderPreview

variable {B : Backend} {H : FrameHost}

/-- The backend compiles by the front end. -/
def Backend.CompilesBy (B : Backend) (frontEnd : FrontEnd) : Prop :=
  ∀ source label state, ∃ module,
    (B.compile source label state).value = .of (some module) (frontEnd.diagnose source)

/-! ### What an attempt shows -/

def Event.line? : Event B → Option String
  | .console line => some line
  | _ => none

/-- Console lines, in order. -/
def consoleLines (events : List (Event B)) : List String := events.filterMap Event.line?

def Event.isShown : Event B → Bool
  | .transition .. | .console _ => true
  | _ => false

/-- Transitions and console lines. -/
def shown (events : List (Event B)) : List (Event B) := events.filter (·.isShown)

theorem shown_append (first second : List (Event B)) :
    shown (first ++ second) = shown first ++ shown second := List.filter_append ..

theorem shown_all {events : List (Event B)} (h : ∀ event ∈ events, event.isShown = true) :
    shown events = events := List.filter_eq_self.2 h

theorem shown_none {events : List (Event B)} (h : ∀ event ∈ events, event.isShown = false) :
    shown events = [] := by
  refine List.filter_eq_nil_iff.2 fun event he hshown => ?_
  rw [h event he] at hshown
  cases hshown

theorem shown_answer {α : Type} {answer : Answer B.State B.Note α} {call : α → Event B}
    (h : (call answer.value).isShown = false) : shown (answer.events call) = [] := by
  have hnotes : ∀ event ∈ answer.notes.map (Event.note (B := B)), event.isShown = false :=
    List.forall_mem_map.2 fun _ _ => rfl
  exact shown_none (List.forall_mem_cons.2 ⟨h, hnotes⟩)

theorem shown_lines (lines : List String) :
    shown (lines.map (Event.console (B := B))) = lines.map .console :=
  shown_all (List.forall_mem_map.2 fun _ _ => rfl)

theorem consoleLines_append (first second : List (Event B)) :
    consoleLines (first ++ second) = consoleLines first ++ consoleLines second :=
  List.filterMap_append

theorem consoleLines_lines (lines : List String) :
    consoleLines (lines.map (Event.console (B := B))) = lines := by
  rw [consoleLines, List.filterMap_map]
  exact List.filterMap_some

theorem consoleLines_shown (events : List (Event B)) :
    consoleLines (shown events) = consoleLines events := by
  rw [consoleLines, shown, List.filterMap_filter, consoleLines]
  congr 1
  funext event
  cases event <;> rfl

/-! ### Stages -/

section

variable {before after : B.State} {events : List (Event B)} {state : LoopState}

theorem shown_loaded {images : List (Fin channelCount × ChannelImage)}
    {textures : PerChannel (Option B.Texture)}
    {outcome : Except Stop (PerChannel (Option B.Texture))}
    (h : Loaded images textures before events outcome after) : shown events = [] := by
  induction h with
  | done => rfl
  | failed => exact shown_answer rfl
  | next _ _ _ ih => rw [shown_append, shown_answer rfl, ih, List.append_nil]

theorem shown_uploaded {vertices : Option VertexData} {outcome : Except Stop (Option B.Vertices)}
    (h : Uploaded vertices before events outcome state after) : shown events = [] := by
  cases h with
  | absent => rfl
  | present => exact shown_answer rfl

theorem shown_built {stages : PipelineStages B.Module} {resources : B.Resources}
    {outcome : Except Stop B.Pipeline}
    (h : Built stages resources before events outcome state after) :
    shown events = [.transition .binding .running] := by
  have hturn (rest : List (Event B)) :
      shown (.transition .binding .running :: rest) = .transition .binding .running :: shown rest :=
    List.filter_cons_of_pos rfl
  cases h with
  | failed => rw [hturn, shown_answer rfl]
  | invalid | built =>
    rw [List.cons_append, hturn, shown_append, shown_answer rfl, shown_answer rfl]
    rfl

theorem shown_bound {request : RenderRequest} {diagnostics : List Diagnostic}
    {outcome : Except Stop B.Resources}
    (h : Bound request diagnostics before events outcome state after) :
    ∃ closing, shown events = .transition .compiling .binding :: closing.map .console ∧
      (closing = [] ∨ closing = [missingFirstChannel] ∧ ∃ stop, outcome = .error stop) := by
  have hturn (rest : List (Event B)) : shown (.transition .compiling .binding :: rest) =
      .transition .compiling .binding :: shown rest := List.filter_cons_of_pos rfl
  cases h with
  | unpopulated => exact ⟨[missingFirstChannel], rfl, .inr ⟨rfl, _, rfl⟩⟩
  | unloaded _ loaded =>
    rw [hturn, shown_loaded loaded]
    exact ⟨[], rfl, .inl rfl⟩
  | bound _ loaded _ =>
    refine ⟨[], ?_, .inl rfl⟩
    rw [List.cons_append, hturn, shown_append, shown_loaded loaded, shown_answer rfl]
    rfl

theorem shown_assembled {α : Type} {request : RenderRequest} {diagnostics : List Diagnostic}
    {stages : Option B.Vertices → PipelineStages B.Module}
    {f : B.Resources → Option B.Vertices → B.Pipeline → α} {outcome : Except Stop α}
    (h : Then (Bound request diagnostics) (fun resources => Then (Uploaded request.vertices)
      fun vertices => Mapped (f resources vertices) (Built (stages vertices) resources))
      before events outcome state after) :
    ∃ closing ending, shown events =
        .transition .compiling .binding :: (closing.map .console ++ ending) ∧
      (ending = [] ∨ ending = [.transition .binding .running]) ∧
      (closing = [] ∨ closing = [missingFirstChannel] ∧ ∃ stop, outcome = .error stop) := by
  cases h with
  | stopped stops =>
    obtain ⟨closing, hshown, hclosing⟩ := shown_bound stops
    refine ⟨closing, [], ?_, .inl rfl, hclosing.imp_right fun hmissing => ⟨hmissing.1, _, rfl⟩⟩
    rw [hshown, List.append_nil]
  | continued goes on =>
    obtain ⟨closing, hshown, hclosing⟩ := shown_bound goes
    have hnone : closing = [] := by
      obtain hnone | ⟨_, stop, hstop⟩ := hclosing
      · exact hnone
      · cases hstop
    subst hnone
    rw [shown_append, hshown]
    cases on with
    | stopped stops =>
      rw [shown_uploaded stops]
      exact ⟨[], [], rfl, .inl rfl, .inl rfl⟩
    | continued goes on =>
      obtain ⟨result, hbuilt, _⟩ := on
      refine ⟨[], [.transition .binding .running], ?_, .inr rfl, .inl rfl⟩
      rw [shown_append, shown_uploaded goes, shown_built hbuilt]
      rfl

end

/-! ### The verdict of the front end -/

theorem judged_agrees {user : Compilation B.Module} {fullscreen : Option (Compilation B.Module)}
    {module : B.Module} {diagnostics : List Diagnostic}
    (huser : user = .of (some module) diagnostics)
    (hfullscreen : ∀ stage, fullscreen = some stage →
      stage.diagnostics = [] ∧ stage.hasErrors = false) {events : List (Event B)}
    {outcome : Except Stop (B.Module × B.Module × List Diagnostic)}
    (h : Judged user fullscreen events outcome) :
    (rejects diagnostics = true ∧ outcome = .error (.rejected (some diagnostics)) ∧
      events = [.console "Shader compilation failed."]) ∨
    (rejects diagnostics = false ∧ (∃ modules, outcome = .ok modules) ∧ events = []) := by
  have hall : user.diagnostics ++ (fullscreen.map (·.diagnostics)).getD [] = diagnostics := by
    cases fullscreen with
    | none =>
      rw [huser]
      exact List.append_nil _
    | some stage =>
      rw [huser, Option.map_some, Option.getD_some, (hfullscreen stage rfl).1]
      exact List.append_nil _
  have herrors : (user.hasErrors || (fullscreen.map (·.hasErrors)).getD false) =
      rejects diagnostics := by
    cases fullscreen with
    | none =>
      rw [huser]
      exact Bool.or_false _
    | some stage =>
      rw [huser, Option.map_some, Option.getD_some, (hfullscreen stage rfl).2]
      exact Bool.or_false _
  cases h with
  | refused errors =>
    rw [hall]
    exact .inl ⟨herrors.symm.trans errors, rfl, rfl⟩
  | missing clean absent =>
    -- a compilation without errors keeps its module
    have hclean := herrors.symm.trans clean
    rw [huser, Compilation.of, hclean] at absent
    cases absent
  | passed clean => exact .inr ⟨herrors.symm.trans clean, ⟨_, rfl⟩, rfl⟩

theorem compiled_agrees {frontEnd : FrontEnd} (hB : B.CompilesBy frontEnd)
    (hfullscreen : frontEnd.diagnose (.plain fullscreenVertex) = []) {kind : ShaderKind}
    {source : String} {before after : B.State} {events : List (Event B)} {state : LoopState}
    {outcome : Except Stop (B.Module × B.Module × List Diagnostic)}
    (h : Compiled kind source before events outcome state after) :
    (rejects (frontEnd.diagnose (composed source)) = true ∧
      outcome = .error (.rejected (some (frontEnd.diagnose (composed source)))) ∧
      shown events = [.console "Shader compilation failed."]) ∨
    (rejects (frontEnd.diagnose (composed source)) = false ∧
      (∃ modules, outcome = .ok modules) ∧ shown events = []) := by
  have hvalue {text : ComposedSource} {label : String} {state : B.State}
      {answer : Answer B.State B.Note (Compilation B.Module)}
      (hanswer : B.compile text label state = answer) :
      ∃ module, answer.value = .of (some module) (frontEnd.diagnose text) := by
    rw [← hanswer]
    exact hB text label state
  cases h with
  | @own user said _ both compiled judged =>
    obtain ⟨module, huser⟩ := hvalue compiled
    have hnone : ∀ stage : Compilation B.Module, none = some stage →
        stage.diagnostics = [] ∧ stage.hasErrors = false := nofun
    rw [shown_append, shown_answer rfl, List.nil_append]
    obtain ⟨hrejects, houtcome, rfl⟩ | ⟨hclean, houtcome, rfl⟩ := judged_agrees huser hnone judged
    · exact .inl ⟨hrejects, houtcome, rfl⟩
    · exact .inr ⟨hclean, houtcome, rfl⟩
  | @supplied user covering said _ fragment compiled covered judged =>
    obtain ⟨module, huser⟩ := hvalue compiled
    obtain ⟨stage, hcovering⟩ := hvalue covered
    rw [hfullscreen] at hcovering
    have hquiet : ∀ stage, some covering.value = some stage →
        stage.diagnostics = [] ∧ stage.hasErrors = false := by
      rintro stage ⟨rfl⟩
      rw [hcovering]
      exact ⟨rfl, rfl⟩
    rw [shown_append, shown_append, shown_answer rfl, shown_answer rfl, List.append_nil,
      List.nil_append]
    obtain ⟨hrejects, houtcome, rfl⟩ | ⟨hclean, houtcome, rfl⟩ := judged_agrees huser hquiet judged
    · exact .inl ⟨hrejects, houtcome, rfl⟩
    · exact .inr ⟨hclean, houtcome, rfl⟩

/-- Transitions, console lines and outcome of the stages, for each verdict of the check. -/
inductive Shows (frontEnd : FrontEnd) (source : String) :
    List (Event B) → Except Stop (Assembly B) → Prop
  | refused (unrenderable : (frontEnd.classify source).isRenderable = false) :
      Shows frontEnd source
        (.transition .acquiring .compiling ::
          (refusalLines (frontEnd.classify source)).map .console)
        (.error (.rejected (some
          (Diagnostic.normalize (frontEnd.classify source).complaint 0))))
  | rejected (renderable : (frontEnd.classify source).isRenderable = true)
      (errors : rejects (frontEnd.diagnose (composed source)) = true) :
      Shows frontEnd source
        (.transition .acquiring .compiling ::
          ((acceptanceLines (frontEnd.classify source)).map .console ++
            [.console "Shader compilation failed."]))
        (.error (.rejected (some (frontEnd.diagnose (composed source)))))
  | bound {closing : List String} {ending : List (Event B)} {outcome : Except Stop (Assembly B)}
      (renderable : (frontEnd.classify source).isRenderable = true)
      (clean : rejects (frontEnd.diagnose (composed source)) = false)
      (ends : ending = [] ∨ ending = [.transition .binding .running])
      (closes : closing = [] ∨ closing = [missingFirstChannel] ∧ ∃ stop, outcome = .error stop) :
      Shows frontEnd source
        (.transition .acquiring .compiling ::
          ((acceptanceLines (frontEnd.classify source)).map .console ++
            (.transition .compiling .binding :: (closing.map .console ++ ending))))
        outcome

theorem prepared_shows {frontEnd : FrontEnd} (hB : B.CompilesBy frontEnd)
    (hfullscreen : frontEnd.diagnose (.plain fullscreenVertex) = []) {request : RenderRequest}
    {before after : B.State} {events : List (Event B)} {state : LoopState}
    {outcome : Except Stop (Assembly B)}
    (h : Prepared frontEnd request before events outcome state after) :
    Shows frontEnd request.source (shown events) outcome := by
  have hexamined (lines : List String) :
      shown (.transition .acquiring .compiling :: lines.map (Event.console (B := B))) =
        .transition .acquiring .compiling :: lines.map .console :=
    (List.filter_cons_of_pos rfl).trans (congrArg (List.cons _) (shown_lines lines))
  cases h with
  | stopped stops =>
    cases stops with
    | refused _ unrenderable =>
      rw [hexamined]
      exact .refused unrenderable
  | continued goes on =>
    cases goes with
    | accepted _ renderable entries =>
      rw [shown_append, hexamined]
      cases on with
      | stopped stops =>
        obtain ⟨hrejects, houtcome, hshown⟩ | ⟨_, ⟨modules, hmodules⟩, _⟩ :=
          compiled_agrees hB hfullscreen stops
        · cases houtcome
          rw [hshown]
          exact .rejected renderable hrejects
        · cases hmodules
      | continued goes on =>
        obtain ⟨_, houtcome, _⟩ | ⟨hclean, _, hshown⟩ := compiled_agrees hB hfullscreen goes
        · cases houtcome
        · obtain ⟨closing, ending, hrest, hends, hcloses⟩ := shown_assembled on
          rw [shown_append, hshown, hrest]
          exact .bound renderable hclean hends hcloses

/-- The state is entered during the events. -/
def Reaches (state : LoopState) (events : List (Event B)) : Prop :=
  ∃ before, .transition before state ∈ events

theorem reaches_shown {state : LoopState} {events : List (Event B)} :
    Reaches state (shown events) ↔ Reaches state events :=
  exists_congr fun _ => List.mem_filter.trans (and_iff_left rfl)

theorem not_reaches_lines (state : LoopState) (lines : List String) :
    ¬ Reaches state (lines.map (Event.console (B := B))) := by
  rintro ⟨before, he⟩
  obtain ⟨line, _, heq⟩ := List.mem_map.1 he
  cases heq

theorem reaches_append {state : LoopState} {first second : List (Event B)} :
    Reaches state (first ++ second) ↔ Reaches state first ∨ Reaches state second := by
  simp only [Reaches, List.mem_append, exists_or]

section

variable {frontEnd : FrontEnd} {source : String} {events : List (Event B)}
  {outcome : Except Stop (Assembly B)}

theorem objections_renderable (h : (frontEnd.classify source).isRenderable = true) :
    frontEnd.objections source (frontEnd.classify source) = frontEnd.diagnose (composed source) :=
  if_pos h

theorem objections_refused (h : (frontEnd.classify source).isRenderable = false) :
    frontEnd.objections source (frontEnd.classify source) =
      Diagnostic.normalize (frontEnd.classify source).complaint 0 := by
  refine if_neg ?_
  rw [h]
  exact Bool.false_ne_true

theorem Shows.reaches (h : Shows frontEnd source events outcome) :
    Reaches .binding events ↔ (frontEnd.classify source).isRenderable = true ∧
      rejects (frontEnd.objections source (frontEnd.classify source)) = false := by
  cases h with
  | refused unrenderable =>
    refine iff_of_false ?_ fun hpasses => ?_
    · rintro ⟨before, he⟩
      obtain heq | hlines := List.mem_cons.1 he
      · cases heq
      · exact not_reaches_lines .binding _ ⟨before, hlines⟩
    · rw [unrenderable] at hpasses
      cases hpasses.1
  | rejected renderable errors =>
    rw [objections_renderable renderable, errors]
    refine iff_of_false ?_ fun hpasses => nomatch hpasses.2
    rintro ⟨before, he⟩
    obtain heq | hlines := List.mem_cons.1 he
    · cases heq
    · rw [← List.map_singleton (f := Event.console (B := B)), ← List.map_append] at hlines
      exact not_reaches_lines .binding _ ⟨before, hlines⟩
  | bound renderable clean =>
    rw [objections_renderable renderable]
    refine iff_of_true ⟨.compiling, ?_⟩ ⟨renderable, clean⟩
    exact List.mem_cons_of_mem _ (List.mem_append_right _ List.mem_cons_self)

theorem Shows.stops (h : Shows frontEnd source events outcome)
    (hshort : ¬ Reaches .binding events) : outcome =
      .error (.rejected (some (frontEnd.objections source (frontEnd.classify source)))) := by
  cases h with
  | refused unrenderable => rw [objections_refused unrenderable]
  | rejected renderable => rw [objections_renderable renderable]
  | bound =>
    refine absurd ⟨.compiling, ?_⟩ hshort
    exact List.mem_cons_of_mem _ (List.mem_append_right _ List.mem_cons_self)

theorem Shows.says (h : Shows frontEnd source events outcome)
    (hrenderable : (frontEnd.classify source).isRenderable = true) :
    ∃ closing, consoleLines events = acceptanceLines (frontEnd.classify source) ++ closing ∧
      (closing = [] ∨ (∃ stop, outcome = .error stop) ∧
        (closing = ["Shader compilation failed."] ∨ closing = [missingFirstChannel])) := by
  have hturn (before after : LoopState) (rest : List (Event B)) :
      consoleLines (.transition before after :: rest) = consoleLines rest := rfl
  cases h with
  | refused unrenderable =>
    rw [unrenderable] at hrenderable
    cases hrenderable
  | rejected =>
    refine ⟨["Shader compilation failed."], ?_, .inr ⟨⟨_, rfl⟩, .inl rfl⟩⟩
    rw [hturn, consoleLines_append, consoleLines_lines]
    rfl
  | @bound closing ending _ _ _ ends closes =>
    refine ⟨closing, ?_, closes.imp_right fun hmissing => ⟨hmissing.2, .inr hmissing.1⟩⟩
    have hending : consoleLines ending = [] := by
      obtain rfl | rfl := ends <;> rfl
    rw [hturn, consoleLines_append, consoleLines_lines, hturn, consoleLines_append,
      consoleLines_lines, hending, List.append_nil]

end

/-! ### Checks and attempts -/

/-- Agreement with the check: the attempt reaches `binding` exactly if the check passes, otherwise
stops with the errors of the report as its only batch, and prints the warnings of the report in
order. -/
structure Agrees (report : CheckReport) (events : List (Event B)) (state : LoopState) : Prop where
  binding : Reaches .binding events ↔
    report.kind.isRenderable = true ∧ report.hasErrors = false
  rejected : ¬ Reaches .binding events → state = .idle ∧ batches events = [report.errors]
  warnings : report.kind.isRenderable = true → ∃ closing,
    consoleLines events =
      s!"Detected shader type: {report.kind.label}" :: (report.warnings ++ closing) ∧
    (closing = [] ∨ closing = ["Shader compilation failed."] ∨ closing = [missingFirstChannel] ∨
      closing = [successLine])

theorem agrees_attempt {frontEnd : FrontEnd} {path : Path} {source : String}
    {turn stages tail : List (Event B)} (hturn : Turns turn)
    (answer : Answer B.State B.Note Bool) (canvas : CanvasSize) {state : LoopState}
    {outcome : Except Stop (Assembly B)} (h : Shows frontEnd source (shown stages) outcome)
    (htail : ¬ Reaches .binding tail)
    (hstopped : ¬ Reaches .binding stages → state = .idle ∧ batches (stages ++ tail) =
      [frontEnd.objections source (frontEnd.classify source)])
    (hlines : ((∃ stop, outcome = .error stop) ∧ consoleLines tail = []) ∨
      ((∃ assembly, outcome = .ok assembly) ∧ consoleLines tail = [successLine])) :
    Agrees (frontEnd.check path source)
      (turn ++ (answer.events (.acquire canvas) ++ (stages ++ tail))) state := by
  have hacquire : shown (answer.events (.acquire canvas)) = [] := shown_answer rfl
  have hreaches : Reaches .binding
      (turn ++ (answer.events (.acquire canvas) ++ (stages ++ tail))) ↔
        Reaches .binding (shown stages) := by
    have hfirst : ¬ Reaches .binding turn := by
      rintro ⟨before, he⟩
      obtain ⟨other, heq⟩ := hturn _ he
      cases heq
    have hcall : ¬ Reaches .binding (answer.events (.acquire canvas)) := by
      rw [← reaches_shown, hacquire]
      rintro ⟨before, he⟩
      cases he
    rw [reaches_append, reaches_append, reaches_append, reaches_shown, or_iff_right hfirst,
      or_iff_right hcall, or_iff_left htail]
  refine ⟨hreaches.trans h.reaches, fun hshort => ?_, fun hrenderable => ?_⟩
  · rw [batches_acquired hturn]
    exact hstopped fun hbinding => hshort (hreaches.2 (reaches_shown.2 hbinding))
  · obtain ⟨closing, hsays, hclosing⟩ := h.says hrenderable
    have hsaid : consoleLines (turn ++ (answer.events (.acquire canvas) ++ (stages ++ tail))) =
        acceptanceLines (frontEnd.classify source) ++ (closing ++ consoleLines tail) := by
      have hfirst : consoleLines turn = [] := by
        refine List.filterMap_eq_nil_iff.2 fun event he => ?_
        obtain ⟨before, rfl⟩ := hturn event he
        rfl
      have hcall : consoleLines (answer.events (.acquire canvas)) = [] := by
        rw [← consoleLines_shown, hacquire]
        rfl
      rw [consoleLines_append, consoleLines_append, consoleLines_append, hfirst, hcall,
        ← consoleLines_shown stages, hsays, List.append_assoc]
      rfl
    refine ⟨closing ++ consoleLines tail, hsaid, ?_⟩
    obtain ⟨⟨stop, hstop⟩, hnone⟩ | ⟨⟨assembly, hok⟩, hsuccess⟩ := hlines
    · rw [hnone, List.append_nil]
      obtain rfl | ⟨_, hwhy⟩ := hclosing
      · exact .inl rfl
      · exact .inr (hwhy.imp_right .inl)
    · rw [hsuccess]
      obtain rfl | ⟨⟨stop, hstop⟩, _⟩ := hclosing
      · exact .inr (.inr (.inr rfl))
      · rw [hok] at hstop
        cases hstop

/-- With a device, a backend that compiles by the front end, and a front end that accepts the
fullscreen stage, every attempt agrees with the check of its source. -/
theorem attempt_agrees (frontEnd : FrontEnd) (path : Path) (request : RenderRequest) (now : Nat)
    (loop : RenderLoop B H) (hB : B.CompilesBy frontEnd)
    (hfullscreen : frontEnd.diagnose (.plain fullscreenVertex) = [])
    (havailable : (B.acquire request.canvas loop.backend).value = true) :
    let next := loop.start frontEnd request now
    ∃ events, next.trace = loop.retire.trace ++ events ∧
      Agrees (frontEnd.check path request.source) events next.state := by
  intro next
  obtain ⟨turn, events, hturn, htrace, hends⟩ := loop.start_ends frontEnd request now
  refine ⟨turn ++ events, htrace, ?_⟩
  have hstate : (loop.start frontEnd request now).state = next.state := rfl
  rw [hstate] at hends
  generalize next.state = state at hends
  cases hends with
  | unavailable asked value =>
    rw [asked, value] at havailable
    cases havailable
  | @stopped answer stages stop mid after asked value prepared =>
    have hshows := prepared_shows hB hfullscreen prepared
    have hstages := batches_stage (inner_prepared frontEnd request prepared).1
    obtain ⟨_, _, _, report, hreport⟩ := prepared_halted prepared
    refine agrees_attempt hturn answer request.canvas hshows ?_ (fun hshort => ⟨rfl, ?_⟩)
      (.inl ⟨⟨stop, rfl⟩, ?_⟩)
    · rw [hreport]
      rintro ⟨before, he⟩
      simp at he
    · have hstop := hshows.stops fun hbinding => hshort (reaches_shown.1 hbinding)
      cases hstop
      rw [batches_append, hstages]
      rfl
    · rw [hreport]
      rfl
  | @running answer stages assembly mid after token frame observer asked value prepared =>
    have hshows := prepared_shows hB hfullscreen prepared
    refine agrees_attempt hturn answer request.canvas hshows ?_ (fun hshort => ?_)
      (.inr ⟨⟨assembly, rfl⟩, rfl⟩)
    · rintro ⟨before, he⟩
      simp at he
    · have hstop := hshows.stops fun hbinding => hshort (reaches_shown.1 hbinding)
      cases hstop

/-- No scripted compilation. -/
def Rehearsal.unprepared (frontEnd : FrontEnd) : Backend :=
  { Rehearsal.backend frontEnd with
    compile := fun source label rehearsal =>
      ⟨.of (some label) (frontEnd.diagnose source), [], rehearsal⟩ }

/-- A shader that parses but is not valid is reported by both. -/
theorem attempt_agrees_objection :
    let frontEnd := FrontEnd.accepting fullscreenVertex Wgsl.frontEnd
    let start : RenderLoop (Rehearsal.unprepared frontEnd) FrameRegister.host :=
      .idle Rehearsal.smooth FrameRegister.empty
    let request : RenderRequest := ⟨unboundShader, PerChannel.empty, none, ⟨640, 360⟩⟩
    let report := frontEnd.check ⟨"s.wgsl"⟩ request.source
    let next := start.start frontEnd request 0
    report.kind.isRenderable = true ∧ report.hasErrors = true ∧
      next.state = .idle ∧ batches next.trace = [report.errors] := by
  have hobjects :
      let frontEnd := FrontEnd.accepting fullscreenVertex Wgsl.frontEnd
      let report := frontEnd.check ⟨"s.wgsl"⟩ unboundShader
      report.kind.isRenderable = true ∧ report.hasErrors = true := by decide +kernel
  have haccepted := diagnose_accepting fullscreenVertex Wgsl.frontEnd
  generalize FrontEnd.accepting fullscreenVertex Wgsl.frontEnd = frontEnd at hobjects haccepted ⊢
  intro _ start request report next
  obtain ⟨events, htrace, hagrees⟩ := attempt_agrees frontEnd ⟨"s.wgsl"⟩ request 0 start
    (fun _ label _ => ⟨label, rfl⟩) haccepted rfl
  have hshort : ¬ Reaches .binding events := by
    intro hbinding
    have hclean : report.hasErrors = false := (hagrees.binding.1 hbinding).2
    exact Bool.false_ne_true (hclean.symm.trans hobjects.2)
  have hevents : next.trace = events := htrace
  rw [hevents]
  exact ⟨hobjects.1, hobjects.2, hagrees.rejected hshort⟩

end ShaderPreview
