import ShaderPreview.Proofs.Session.Run

/-!
# Frames, observers and tokens

Every frame and observer issued by the host is held by the session or was given back once.
`Accounts` is this invariant with the tokens; it is preserved by each step of an operation.
-/

namespace ShaderPreview

variable {B : Backend} {H : FrameHost}

/-! ### Host calls in frames and observers -/

/-- Calls to the frame host. -/
inductive HostCall where
  | requested (frame : FrameId)
  | cancelled (frame : FrameId)
  | observed (observer : ObserverId)
  | disconnected (observer : ObserverId)
  | drew
  deriving DecidableEq

def Event.hostCall? : Event B → Option HostCall
  | .requestFrame _ frame => some (.requested frame)
  | .cancelFrame frame => some (.cancelled frame)
  | .observeResize observer => some (.observed observer)
  | .disconnectResize observer => some (.disconnected observer)
  | .draw .. => some .drew
  | _ => none

def hostCalls (trace : List (Event B)) : List HostCall := trace.filterMap Event.hostCall?

theorem hostCalls_append (trace events : List (Event B)) :
    hostCalls (trace ++ events) = hostCalls trace ++ hostCalls events := List.filterMap_append

theorem hostCalls_stage {events : List (Event B)} (h : ∀ event ∈ events, event.isStage = true) :
    hostCalls events = [] := by
  refine List.filterMap_eq_nil_iff.2 fun event he => ?_
  have hstage := h event he
  cases event <;> first | rfl | cases hstage

theorem hostCalls_answer {α : Type} (answer : Answer B.State B.Note α) (call : α → Event B) :
    hostCalls (answer.events call) = (call answer.value).hostCall?.toList := by
  have hnotes := hostCalls_stage (stage_notes answer.notes)
  rw [Answer.events, hostCalls, List.filterMap_cons]
  cases (call answer.value).hostCall? with
  | none => exact hnotes
  | some hostCall => exact congrArg (List.cons hostCall) hnotes

theorem count_next (before : List HostCall) (next hostCall : HostCall) :
    (before ++ [next]).count hostCall =
      before.count hostCall + if next = hostCall then 1 else 0 := by
  rw [List.count_append, List.count_singleton]
  simp only [beq_iff_eq]

/-- Effect of retiring a session on the host calls. -/
structure RetirementCalls (before after : List HostCall) (session : Session B) : Prop where
  drew : after.count .drew = before.count .drew
  requested (frame : FrameId) : after.count (.requested frame) = before.count (.requested frame)
  cancelled (frame : FrameId) : after.count (.cancelled frame) =
    before.count (.cancelled frame) + if session.frame = some frame then 1 else 0
  observed (observer : ObserverId) :
    after.count (.observed observer) = before.count (.observed observer)
  disconnected (observer : ObserverId) : after.count (.disconnected observer) =
    before.count (.disconnected observer) + if session.observer = observer then 1 else 0

theorem hostCalls_retirement (session : Session B) :
    hostCalls session.retirement =
      session.frame.toList.map .cancelled ++ [.disconnected session.observer] := by
  cases hf : session.frame <;> simp only [Session.retirement, hf] <;> rfl

theorem retirementCalls_retirement (trace : List (Event B)) (session : Session B) :
    RetirementCalls (hostCalls trace) (hostCalls (trace ++ session.retirement)) session := by
  rw [hostCalls_append, hostCalls_retirement]
  constructor <;> cases hf : session.frame <;>
    simp [List.count_cons, List.count_append]

/-! ### Balances -/

/-- Every id that was issued is held or was given back, was issued once, and is not issued again. -/
structure Balanced {Id : Type} [DecidableEq Id] (handedOut givenBack : Id → Nat)
    (held : Option Id) (Spent : Id → Prop) : Prop where
  balance (id : Id) : handedOut id = givenBack id + if held = some id then 1 else 0
  once (id : Id) : handedOut id ≤ 1
  spent {id : Id} : 0 < handedOut id → Spent id

namespace Balanced

variable {Id : Type} [DecidableEq Id] {out back next : Id → Nat} {held : Option Id}
  {Spent Later : Id → Prop}

theorem later (h : Balanced out back held Spent) (hs : ∀ id, Spent id → Later id) :
    Balanced out back held Later :=
  ⟨h.balance, h.once, fun hpos => hs _ (h.spent hpos)⟩

theorem handOut {id : Id} (h : Balanced out back none Spent) (hnew : ¬ Spent id)
    (hnext : ∀ other, next other = out other + if id = other then 1 else 0)
    (hs : ∀ other, Spent other → Later other) (hlater : Later id) :
    Balanced next back (some id) Later := by
  have hzero : out id = 0 := Nat.eq_zero_of_not_pos fun hpos => hnew (h.spent hpos)
  refine ⟨fun other => ?_, fun other => ?_, fun {other} hpos => ?_⟩
  · have hbalance := h.balance other
    rw [hnext other]
    by_cases heq : id = other
    · subst heq
      simp only [if_true, reduceCtorEq, if_false] at hbalance ⊢
      omega
    · simp only [heq, Option.some.injEq, reduceCtorEq, if_false] at hbalance ⊢
      omega
  · have honce := h.once other
    rw [hnext other]
    by_cases heq : id = other
    · subst heq
      rw [if_pos rfl]
      omega
    · rw [if_neg heq]
      omega
  · by_cases heq : id = other
    · exact heq ▸ hlater
    · rw [hnext other, if_neg heq] at hpos
      exact hs other (h.spent hpos)

theorem giveBack {id : Id} (h : Balanced out back (some id) Spent)
    (hnext : ∀ other, next other = back other + if id = other then 1 else 0) :
    Balanced out next none Spent := by
  refine ⟨fun other => ?_, h.once, h.spent⟩
  have hbalance := h.balance other
  rw [hnext other]
  simp only [Option.some.injEq, reduceCtorEq, if_false] at hbalance ⊢
  omega

theorem back_le_one (h : Balanced out back held Spent) (id : Id) : back id ≤ 1 := by
  have hbalance := h.balance id
  have honce := h.once id
  omega

theorem back_eq_one {id : Id} (h : Balanced out back held Spent) (hout : 0 < out id)
    (hheld : held ≠ some id) : back id = 1 := by
  have hbalance := h.balance id
  have honce := h.once id
  rw [if_neg hheld] at hbalance
  omega

theorem back_eq_zero {id : Id} (h : Balanced out back (some id) Spent) : back id = 0 := by
  have hbalance := h.balance id
  have honce := h.once id
  rw [if_pos rfl] at hbalance
  omega

end Balanced

/-- Exactly the token of the current session is issued and not cancelled. -/
structure TokensKept (tokens : Tokens) (current : Option Token) : Prop where
  issued {token : Token} : tokens.isCancelled token = true → token.number < tokens.issued
  retired {token : Token} : token.number < tokens.issued → current ≠ some token →
    tokens.isCancelled token = true
  kept {token : Token} : current = some token →
    token.number < tokens.issued ∧ tokens.isCancelled token = false

namespace TokensKept

variable {tokens : Tokens}

theorem issue (h : TokensKept tokens none) : TokensKept tokens.issue (some tokens.fresh) := by
  refine ⟨fun hc => Nat.lt_succ_of_lt (h.issued hc), fun {token} hlt hne => ?_, ?_⟩
  · have hnumber : token.number ≠ tokens.issued :=
      fun heq => hne (congrArg (fun number => some (Token.mk number)) heq.symm)
    have hold : token.number < tokens.issued := by
      have hsucc : token.number < tokens.issued + 1 := hlt
      omega
    exact h.retired hold (by simp only [ne_eq, reduceCtorEq, not_false_eq_true])
  · rintro token ⟨rfl⟩
    refine ⟨Nat.lt_succ_self _, ?_⟩
    cases hc : tokens.isCancelled tokens.fresh with
    | false => exact hc
    | true => exact absurd (h.issued hc) (Nat.lt_irrefl _)

theorem cancel {token : Token} (h : TokensKept tokens (some token)) :
    TokensKept (tokens.cancel token) none := by
  refine ⟨fun {other} hc => ?_, fun {other} hlt _ => ?_, nofun⟩
  · rw [Tokens.isCancelled_cancel, Bool.or_eq_true, decide_eq_true_eq] at hc
    rcases hc with rfl | hc
    · exact (h.kept rfl).1
    · exact h.issued hc
  · rw [Tokens.isCancelled_cancel, Bool.or_eq_true, decide_eq_true_eq]
    by_cases heq : other = token
    · exact .inl heq
    · exact .inr (h.retired hlt fun hsome => heq (Option.some.inj hsome).symm)

end TokensKept

/-! ### The host after a session -/

namespace Session

variable {ledger : Ledger H} {session : Session B} {host : H.State}

theorem evolves_hostAfter (ledger : Ledger H) (session : Session B) (host : H.State) :
    Evolves H ledger.deliver host (session.hostAfter host) := by
  unfold hostAfter
  cases session.frame with
  | none => exact Evolves.refl.disconnect session.observer
  | some frame => exact (Evolves.refl.cancel frame).disconnect session.observer

theorem pending_hostAfter
    (h : ledger.pending host = (session.frame.map fun frame => (frame, session.token)).toList) :
    ledger.pending (session.hostAfter host) = [] := by
  unfold hostAfter
  rw [ledger.pending_disconnect]
  cases hf : session.frame with
  | none =>
    rw [hf] at h
    exact h
  | some frame =>
    rw [hf] at h
    show ledger.pending (H.cancel frame host) = []
    rw [ledger.pending_cancel, h]
    simp only [Option.map_some, Option.toList_some, List.filter_cons, ne_eq, not_true_eq_false,
      decide_false, Bool.false_eq_true, if_false, List.filter_nil]

theorem observers_hostAfter (h : ledger.observers host = [session.observer]) :
    ledger.observers (session.hostAfter host) = [] := by
  unfold hostAfter
  have hcancel : ledger.observers (session.frame.elim host fun frame => H.cancel frame host) =
      ledger.observers host := by
    cases session.frame with
    | none => rfl
    | some frame => exact ledger.observers_cancel frame host
  rw [ledger.observers_disconnect, hcancel, h]
  simp only [List.filter_cons, ne_eq, not_true_eq_false, decide_false, Bool.false_eq_true,
    if_false, List.filter_nil]

end Session

/-! ### The accounts of a render loop -/

/-- Invariant on host, tokens and trace: the host holds exactly the frame and the observer of the
session. `drawn` lists the frames that were delivered and drawn. -/
structure Accounts (ledger : Ledger H) (drawn : List FrameId) (loop : RenderLoop B H) :
    Prop where
  pending : ledger.pending loop.host = (loop.session.bind fun session =>
    session.frame.map fun frame => (frame, session.token)).toList
  observers : ledger.observers loop.host = (loop.session.map (·.observer)).toList
  tokens : TokensKept loop.tokens (loop.session.map (·.token))
  draws : drawn.length = (hostCalls loop.trace).count .drew
  frames : Balanced (fun frame => (hostCalls loop.trace).count (.requested frame))
    (fun frame => drawn.count frame + (hostCalls loop.trace).count (.cancelled frame))
    (loop.session.bind (·.frame)) (ledger.SpentFrame loop.host)
  observed : Balanced (fun observer => (hostCalls loop.trace).count (.observed observer))
    (fun observer => (hostCalls loop.trace).count (.disconnected observer))
    (loop.session.map (·.observer)) (ledger.SpentObserver loop.host)

namespace Accounts

variable {ledger : Ledger H} {drawn : List FrameId} {loop next : RenderLoop B H}

theorem idle (ledger : Ledger H) (backend : B.State) :
    Accounts (B := B) ledger [] (.idle backend ledger.initial) where
  pending := ledger.pending_initial
  observers := ledger.observers_initial
  tokens := ⟨nofun, nofun, nofun⟩
  draws := rfl
  frames := ⟨fun _ => rfl, fun _ => Nat.zero_le _, nofun⟩
  observed := ⟨fun _ => rfl, fun _ => Nat.zero_le _, nofun⟩

theorem same (h : Accounts ledger drawn loop) (hsession : next.session = loop.session)
    (hhost : next.host = loop.host) (htokens : next.tokens = loop.tokens)
    (hcalls : hostCalls next.trace = hostCalls loop.trace) : Accounts ledger drawn next where
  pending := by
    rw [hhost, hsession]
    exact h.pending
  observers := by
    rw [hhost, hsession]
    exact h.observers
  tokens := by
    rw [htokens, hsession]
    exact h.tokens
  draws := by
    rw [hcalls]
    exact h.draws
  frames := by
    rw [hcalls, hhost, hsession]
    exact h.frames
  observed := by
    rw [hcalls, hhost, hsession]
    exact h.observed

theorem after (h : Accounts ledger drawn loop) {events : List (Event B)}
    (he : hostCalls events = []) (state : LoopState) (backend : B.State) :
    Accounts ledger drawn (loop.after state backend events) := by
  refine h.same rfl rfl rfl ?_
  show hostCalls (loop.trace ++ events) = hostCalls loop.trace
  rw [hostCalls_append, he, List.append_nil]

theorem transition (h : Accounts ledger drawn loop) (state : LoopState) :
    Accounts ledger drawn (loop.transition state) := by
  by_cases hs : loop.state = state
  · rw [RenderLoop.transition, if_pos hs]
    exact h
  · rw [RenderLoop.transition_after state rfl hs]
    exact h.after rfl state loop.backend

theorem retire (h : Accounts ledger drawn loop)
    (hs : loop.session.isSome = true → loop.state = .running) :
    Accounts ledger drawn loop.retire := by
  cases hsession : loop.session with
  | none =>
    rw [RenderLoop.retire_none hsession]
    exact h
  | some session =>
    rw [RenderLoop.retire_running hsession (hs (by rw [hsession]; rfl))]
    obtain ⟨hpending, hobservers, htokens, hdraws, hframes, hobserved⟩ := h
    rw [hsession] at hpending hobservers htokens hframes hobserved
    have hevolves := Session.evolves_hostAfter ledger session loop.host
    have hbooks := retirementCalls_retirement loop.trace session
    refine ⟨Session.pending_hostAfter hpending, Session.observers_hostAfter hobservers,
      htokens.cancel, ?_, ?_, ?_⟩
    · rw [hdraws, hbooks.drew]
    · simp only [hbooks.requested, hbooks.cancelled]
      refine Balanced.later ?_ fun frame (hspent : ledger.SpentFrame loop.host frame) =>
        hspent.later hevolves
      -- a frame that was drawn already is not given back once more
      cases hf : session.frame with
      | none =>
        rw [Option.bind_some, hf] at hframes
        exact hframes
      | some frame =>
        rw [Option.bind_some, hf] at hframes
        refine hframes.giveBack fun other => ?_
        simp only [Option.some.injEq, Nat.add_assoc]
    · simp only [hbooks.observed]
      exact (hobserved.giveBack hbooks.disconnected).later fun _ hspent => hspent.later hevolves

theorem connected (h : Accounts ledger drawn loop) (hnone : loop.session = none)
    (assembly : Assembly B) (request : RenderRequest) (now : Nat) :
    Accounts ledger drawn (loop.connected assembly request now) := by
  obtain ⟨hpending, hobservers, htokens, hdraws, hframes, hobserved⟩ := h
  rw [hnone] at hpending hobservers htokens hframes hobserved
  let token := loop.tokens.fresh
  let requested := (H.request token loop.host).2
  let frame := (H.request token loop.host).1
  let observer := (H.observe requested).1
  have hrequested : Evolves H ledger.deliver loop.host requested := Evolves.refl.request token
  have hobserve : Evolves H ledger.deliver requested (H.observe requested).2 := Evolves.refl.observe
  have hcalls : hostCalls (loop.connected assembly request now).trace =
      hostCalls loop.trace ++ [.requested frame] ++ [.observed observer] := by
    rw [List.append_assoc]
    exact hostCalls_append _ _
  refine ⟨?_, ?_, htokens.issue, ?_, ?_, ?_⟩
  · show ledger.pending (H.observe requested).2 = [(frame, token)]
    rw [ledger.pending_observe]
    exact ledger.pending_request token hpending
  · show ledger.observers (H.observe requested).2 = [observer]
    refine ledger.observers_observe ?_
    rw [ledger.observers_request]
    exact hobservers
  · simp only [hcalls, count_next, hdraws, reduceCtorEq, if_false, Nat.add_zero]
  · simp only [hcalls, count_next, reduceCtorEq, if_false, Nat.add_zero]
    have hspent := ledger.spentFrame_request token loop.host
    refine hframes.handOut (ledger.not_spentFrame_request token loop.host) (fun other => ?_)
      (fun other hold => hold.later (hrequested.trans hobserve)) (hspent.later hobserve)
    simp only [HostCall.requested.injEq]
    rfl
  · simp only [hcalls, count_next, reduceCtorEq, if_false, Nat.add_zero]
    have hnew := ledger.not_spentObserver_observe requested
    refine hobserved.handOut (fun hold => hnew (hold.later hrequested)) (fun other => ?_)
      (fun other hold => hold.later (hrequested.trans hobserve))
      (ledger.spentObserver_observe requested)
    simp only [HostCall.observed.injEq]
    rfl

theorem requestNext {session : Session B} (h : Accounts ledger drawn loop)
    (hsession : loop.session = some session) (hframe : session.frame = none) :
    Accounts ledger drawn (loop.requestNext session) := by
  obtain ⟨hpending, hobservers, htokens, hdraws, hframes, hobserved⟩ := h
  rw [hsession] at hpending hobservers htokens hframes hobserved
  rw [Option.bind_some, hframe] at hpending hframes
  let frame := (H.request session.token loop.host).1
  have hevolves : Evolves H ledger.deliver loop.host (H.request session.token loop.host).2 :=
    Evolves.refl.request session.token
  have hcalls : hostCalls (loop.requestNext session).trace =
      hostCalls loop.trace ++ [.requested frame] := hostCalls_append _ _
  refine ⟨ledger.pending_request session.token hpending, ?_, htokens, ?_, ?_, ?_⟩
  · show ledger.observers (H.request session.token loop.host).2 = [session.observer]
    rw [ledger.observers_request]
    exact hobservers
  · simp only [hcalls, count_next, hdraws, reduceCtorEq, if_false, Nat.add_zero]
  · simp only [hcalls, count_next, reduceCtorEq, if_false, Nat.add_zero]
    refine hframes.handOut (ledger.not_spentFrame_request session.token loop.host)
      (fun other => ?_) (fun other hold => hold.later hevolves)
      (ledger.spentFrame_request session.token loop.host)
    simp only [HostCall.requested.injEq]
    rfl
  · simp only [hcalls, count_next, reduceCtorEq, if_false, Nat.add_zero]
    exact hobserved.later fun other hold => hold.later hevolves

theorem drew {session : Session B} {frame : FrameId} (h : Accounts ledger drawn loop)
    (hsession : loop.session = some session) (hframe : session.frame = some frame)
    (now failures : Nat) :
    Accounts ledger (drawn ++ [frame])
      ({ loop with host := ledger.deliver frame loop.host }.drew session now failures) := by
  obtain ⟨hpending, hobservers, htokens, hdraws, hframes, hobserved⟩ := h
  rw [hsession] at hpending hobservers htokens hframes hobserved
  rw [Option.bind_some, hframe] at hpending hframes
  have hevolves : Evolves H ledger.deliver loop.host (ledger.deliver frame loop.host) :=
    Evolves.refl.deliver frame
  have hcalls : hostCalls
      ({ loop with host := ledger.deliver frame loop.host }.drew session now failures).trace =
      hostCalls loop.trace ++ [.drew] := by
    refine (hostCalls_append _ _).trans ?_
    rw [hostCalls_answer]
    rfl
  refine ⟨?_, ?_, htokens, ?_, ?_, ?_⟩
  · show ledger.pending (ledger.deliver frame loop.host) = []
    rw [ledger.pending_deliver, hpending]
    simp only [Option.map_some, Option.toList_some, List.filter_cons, ne_eq, not_true_eq_false,
      decide_false, Bool.false_eq_true, if_false, List.filter_nil]
  · show ledger.observers (ledger.deliver frame loop.host) = [session.observer]
    rw [ledger.observers_deliver]
    exact hobservers
  · rw [hcalls, count_next, List.length_append, hdraws]
    rfl
  · simp only [hcalls, count_next, reduceCtorEq, if_false, Nat.add_zero]
    refine (hframes.giveBack fun other => ?_).later fun other hold => hold.later hevolves
    rw [List.count_append, List.count_singleton]
    simp only [beq_iff_eq]
    omega
  · simp only [hcalls, count_next, reduceCtorEq, if_false, Nat.add_zero]
    exact hobserved.later fun other hold => hold.later hevolves

end Accounts

end ShaderPreview
