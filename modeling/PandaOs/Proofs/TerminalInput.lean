import PandaOs.Userspace.Terminal
import PandaOs.Lib.Keeps

/-!
# What the terminal answers, and to whom

A child asks for input with `RequestInput` and waits for the
`InputResponse` that carries its request's id. The terminal keeps one
pending request and answers it from the keyboard. Every response it sends
answers a request it read, on the channel it read it from, with that
request's id, and no request is answered twice: the responses of a run,
followed by the request still pending, are a sublist of the requests the
run read (`Answered`, `terminal_answers_requests`). One step keeps that
relation; `Lib.Keeps` carries it through the `do` blocks of the handlers.
-/

namespace PandaOs.Userspace

open PandaOs.Lib PandaOs.Abi PandaOs.Abi.Terminal

/-! ## Running the primitives -/

section Primitives

variable (env : Env) (s : Session)

@[simp] theorem run_getTerm : getTerm.run s = pure (s.term, s) := rfl

@[simp] theorem run_modifyTerm (f : Terminal → Terminal) :
    (modifyTerm f).run s = pure ((), { s with term := f s.term }) := rfl

@[simp] theorem run_emit (es : List Effect) :
    (emit es).run s = pure ((), { s with effects := s.effects ++ es }) := rfl

@[simp] theorem run_draw (o : Output) :
    (draw env o).run s =
      pure ((), ⟨{ s.term with cursor := env.advance o s.term.cursor }, s.effects ++ [Effect.draw o]⟩) :=
  rfl

end Primitives

/-! ## Responses and requests -/

/-- The (channel, request id) of each `InputResponse` among the effects. -/
def responses (effects : List Effect) : List (Nat × UInt32) :=
  effects.filterMap fun
    | .send handle (.input resp) => some (handle, resp.id)
    | _ => none

/-- The (channel, request id) of the pending request, if any. -/
def Terminal.pendingKey (t : Terminal) : List (Nat × UInt32) :=
  (t.pendingInput.map fun p => (p.handle, p.id)).toList

/-- A `RequestInput` read on a channel, as (channel, request id). -/
def requestKey (msg : Request) (handle : Nat) : List (Nat × UInt32) :=
  match msg with
  | .requestInput req => [(handle, req.id)]
  | _ => []

/-- The `RequestInput` an input reads from a child's channel. -/
def Input.requested : Input → List (Nat × UInt32)
  | .message handle bytes =>
      if bytes.isEmpty then []
      else
        match Request.fromBytes bytes with
        | .ok (msg, _) => requestKey msg handle
        | .error _ => []
  | _ => []

@[simp] theorem responses_append (e e' : List Effect) : responses (e ++ e') = responses e ++ responses e' :=
  List.filterMap_append

@[simp] theorem responses_draw (o : Output) : responses [.draw o] = [] := rfl

/-- The responses sent and the request still pending, after a piece of a
step, against those before it and `extra`, the request read in between. -/
def Answered (extra : List (Nat × UInt32)) (s s' : Session) : Prop :=
  (responses s'.effects ++ s'.term.pendingKey).Sublist (responses s.effects ++ s.term.pendingKey ++ extra)

theorem answered_refl (s : Session) : Answered [] s s := by
  rw [Answered, List.append_nil]

theorem answered_trans {extra : List (Nat × UInt32)} (s₁ s₂ s₃ : Session) (h₁ : Answered [] s₁ s₂)
    (h₂ : Answered extra s₂ s₃) : Answered extra s₁ s₃ := by
  rw [Answered, List.append_nil] at h₁
  exact h₂.trans (h₁.append_right extra)

/-! ## The pieces of a step -/

section Pieces

variable (env : Env)

theorem keeps_getTerm : Keeps (Answered []) getTerm := by
  intro s a s' h
  cases h
  exact answered_refl s

theorem keeps_draw (o : Output) : Keeps (Answered []) (draw env o) := by
  intro s a s' h
  cases h
  simp [Answered, Terminal.pendingKey]

theorem keeps_emit {es : List Effect} (hes : responses es = []) : Keeps (Answered []) (emit es) := by
  intro s a s' h
  cases h
  simp [Answered, hes]

/-- A change of the terminal that keeps the pending request or drops it. -/
theorem keeps_modifyTerm {f : Terminal → Terminal} (hf : ∀ t, (f t).pendingKey.Sublist t.pendingKey) :
    Keeps (Answered []) (modifyTerm f) := by
  intro s a s' h
  cases h
  exact ((hf s.term).append_left _).trans (List.sublist_append_left _ _)

/-- A piece that keeps the request, then the rest. -/
theorem keeps_then {α : Type} {extra : List (Nat × UInt32)} {x : TermM α} {y : TermM Unit}
    (hx : Keeps (Answered []) x) (hy : Keeps (Answered extra) y) : Keeps (Answered extra) (x >>= fun _ => y) :=
  Keeps.bind hx (fun _ => hy) answered_trans

theorem keeps_lift {α : Type} (x : Compositor.PanicM α) : Keeps (Answered []) (monadLift x : TermM α) :=
  Keeps.lift answered_refl x

/-- Arithmetic that may panic, then the rest. -/
theorem keeps_lift_bind {α β : Type} {extra : List (Nat × UInt32)} (x : Compositor.PanicM α) {f : α → TermM β}
    (hf : ∀ a, Keeps (Answered extra) (f a)) : Keeps (Answered extra) (monadLift x >>= f) :=
  Keeps.bind (keeps_lift x) hf answered_trans

/-- A read of the terminal, then the rest. -/
theorem keeps_getTerm_bind {β : Type} {extra : List (Nat × UInt32)} {f : Terminal → TermM β}
    (hf : ∀ t, Keeps (Answered extra) (f t)) : Keeps (Answered extra) (getTerm >>= f) :=
  Keeps.bind keeps_getTerm hf answered_trans

/-- Answering the pending request moves it from pending to sent. -/
theorem keeps_sendInputResponse (value : Option InputValue) :
    Keeps (Answered []) (sendInputResponse value) := by
  intro s a s' h
  cases hp : s.term.pendingInput with
  | none =>
      simp only [sendInputResponse, StateT.run_bind, run_getTerm, hp, pure_bind] at h
      cases h
      exact answered_refl s
  | some p =>
      simp only [sendInputResponse, StateT.run_bind, run_getTerm, hp, run_modifyTerm, pure_bind, run_emit] at h
      cases h
      simp [Answered, Terminal.pendingKey, responses, hp]

/-- A new request is pending in place of the old one, which is dropped. -/
theorem keeps_setPending (id : UInt32) (kind : InputKind) (handle : Nat) :
    Keeps (Answered [(handle, id)])
      (modifyTerm fun t => { t with pendingInput := some ⟨id, kind, handle, []⟩ }) := by
  intro s a s' h
  cases h
  simp only [Answered, Terminal.pendingKey, Option.map_some, Option.toList_some, List.append_assoc]
  exact (List.sublist_append_right _ _).append_left (responses s.effects)

end Pieces

/-! ## The handlers -/

section Handlers

variable (env : Env)

theorem keeps_handleInputChar (ch : Char) : Keeps (Answered []) (handleInputChar env ch) := by
  intro s a s' h
  cases hp : s.term.pendingInput with
  | none => simp [handleInputChar, hp] at h; cases h; exact answered_refl s
  | some p =>
      -- the request is answered, or keeps its channel and id
      cases hk : p.kind
      case confirm =>
        simp only [handleInputChar, StateT.run_bind, run_getTerm, hp, pure_bind, hk] at h
        split_ifs at h <;> simp [sendInputResponse, hp] at h <;> cases h <;>
          simp [Answered, Terminal.pendingKey, responses, hp]
      all_goals
        simp [handleInputChar, hp, hk, sendInputResponse] at h
        cases h
        simp [Answered, Terminal.pendingKey, responses, hp]

theorem keeps_handleInputEnter : Keeps (Answered []) (handleInputEnter env) := by
  intro s a s' h
  cases hp : s.term.pendingInput with
  | none => simp [handleInputEnter, hp] at h; cases h; exact answered_refl s
  | some p =>
      cases hk : p.kind <;> simp [handleInputEnter, hp, hk, sendInputResponse] at h <;> cases h <;>
        simp [Answered, Terminal.pendingKey, responses, hp]

theorem keeps_handleInputBackspace : Keeps (Answered []) (handleInputBackspace env) := by
  intro s a s' h
  cases hp : s.term.pendingInput with
  | none => simp [handleInputBackspace, hp] at h; cases h; exact answered_refl s
  | some p =>
      -- only a line or a password loses its last character; the request stays
      cases hk : p.kind <;> simp [handleInputBackspace, hp, hk] at h
      case line | password =>
        split_ifs at h <;> simp [hp] at h <;> cases h <;> simp [Answered, Terminal.pendingKey, hp, responses]
      all_goals cases h; exact answered_refl s

theorem keeps_handleChar (ch : Char) : Keeps (Answered []) (handleChar env ch) := by
  intro s a s' h
  simp [handleChar, Compositor.u32Add, Compositor.u32Sub] at h
  -- the margin test does not overflow; the line wraps first or not
  split_ifs at h <;> simp at h
  split_ifs at h <;> simp at h <;> cases h <;> simp [Answered, Terminal.pendingKey, responses]

theorem keeps_executeCommand : Keeps (Answered []) (executeCommand env) := by
  intro s a s' h
  cases hs : env.spawn s.term.lineBuffer with
  | none => simp [executeCommand, hs] at h; cases h; simp [Answered, responses]
  | some r => simp [executeCommand, hs] at h; cases h; simp [Answered, responses, Terminal.pendingKey]

theorem keeps_handleEnter : Keeps (Answered []) (handleEnter env) := by
  unfold handleEnter
  refine keeps_getTerm_bind fun t => ?_
  split
  · exact keeps_handleInputEnter env
  · refine keeps_then (keeps_draw env _) ?_
    refine keeps_getTerm_bind fun t' => ?_
    -- the line typed is run when it holds more than whitespace, and cleared either way
    have hclear : Keeps (Answered []) (do
        modifyTerm fun t => { t with lineBuffer := [] }
        draw env Output.flush) :=
      keeps_then (keeps_modifyTerm fun _ => List.Sublist.refl _) (keeps_draw env _)
    dsimp only
    split
    · exact keeps_then (keeps_executeCommand env) hclear
    · exact hclear

theorem keeps_handleBackspace : Keeps (Answered []) (handleBackspace env) := by
  unfold handleBackspace
  refine keeps_getTerm_bind fun t => ?_
  split
  · exact keeps_handleInputBackspace env
  · refine keeps_getTerm_bind fun t' => ?_
    split
    · exact keeps_then (keeps_modifyTerm fun _ => List.Sublist.refl _) (keeps_then (keeps_draw env _) (keeps_draw env _))
    · exact Keeps.pure answered_refl ()

theorem keeps_handleKeyEvent (code : UInt16) (value : KeyValue) :
    Keeps (Answered []) (handleKeyEvent env code value) := by
  have hshift : ∀ b : Bool, Keeps (Answered []) (modifyTerm fun t => { t with shiftPressed := b }) :=
    fun _ => keeps_modifyTerm fun _ => List.Sublist.refl _
  unfold handleKeyEvent
  split
  case h_3 =>
    split_ifs
    · exact hshift false
    · exact Keeps.pure answered_refl ()
  -- a press and a repeat are handled alike
  all_goals
    split_ifs
    · exact hshift true
    · exact keeps_handleEnter env
    · exact keeps_handleBackspace env
    · refine keeps_getTerm_bind fun t => ?_
      -- a character goes to the pending request, or to the prompt, or nowhere
      split
      · split_ifs
        · exact keeps_handleInputChar env _
        · exact keeps_handleChar env _
        · exact Keeps.pure answered_refl ()
      · exact Keeps.pure answered_refl ()

theorem keeps_handleRequest (msg : Request) (childHandle : Nat) :
    Keeps (Answered (requestKey msg childHandle)) (handleRequest env msg childHandle) := by
  have hd := keeps_draw env
  cases msg with
  | error value | warning value =>
      exact keeps_then (hd _) (keeps_then (hd _) (keeps_then (hd _) (hd _)))
  | write value => exact keeps_then (hd _) (hd _)
  | moveCursor row col =>
      refine keeps_getTerm_bind fun t => ?_
      exact keeps_lift_bind _ fun _ => keeps_lift_bind _ fun _ => keeps_lift_bind _ fun _ =>
        keeps_lift_bind _ fun _ => keeps_modifyTerm fun _ => List.Sublist.refl _
  | clear region => exact hd _
  | requestInput req =>
      -- the prompt is rendered, and the new request replaces the one pending
      unfold handleRequest
      dsimp only
      split
      · exact keeps_then (hd _) (keeps_setPending _ _ _)
      · exact keeps_setPending _ _ _
  | setTitle title => exact Keeps.pure answered_refl ()
  | progress current total message =>
      -- the percentage, which may overflow, then the line
      unfold handleRequest requestKey
      dsimp only
      have hline : ∀ percent : Nat, Keeps (Answered []) (do
          draw env (.text ("[" ++ toString percent ++ "%] " ++ message) colourDefaultFg)
          draw env .newline
          draw env .flush : TermM Unit) :=
        fun _ => keeps_then (hd _) (keeps_then (hd _) (hd _))
      split
      · exact keeps_lift_bind _ fun _ => Keeps.bind (Keeps.pure answered_refl _) (fun _ => hline _) answered_trans
      · exact Keeps.bind (Keeps.pure answered_refl _) (fun _ => hline _) answered_trans
  | query q =>
      -- a query is answered with a `QueryResponse`, which is no `InputResponse`
      refine keeps_getTerm_bind fun t => ?_
      exact keeps_lift_bind _ fun _ => keeps_emit rfl
  | exit code => exact Keeps.pure answered_refl ()

/-- A child's message is a request, a value that is drawn, or nothing. -/
theorem keeps_processChildMessage (handle : Nat) (bytes : List UInt8) :
    Keeps (Answered (Input.requested (.message handle bytes))) (processChildMessage env handle bytes) := by
  by_cases hb : bytes.isEmpty
  · simp only [processChildMessage, Input.requested, if_pos hb]
    exact Keeps.pure answered_refl ()
  · simp only [processChildMessage, Input.requested, if_neg hb]
    cases hr : Request.fromBytes bytes with
    | ok r => exact keeps_handleRequest env r.1 handle
    | error e =>
        dsimp only
        split
        · exact keeps_then (keeps_draw env _) (keeps_draw env _)
        · exact Keeps.pure answered_refl ()

theorem responses_waits (handles : List Nat) : responses (handles.map .wait) = [] := by
  simp [responses, List.filterMap_map]

/-- The exit of a child drops the request it made; a pipeline's stages are
only waited for. -/
theorem keeps_handleChildExit (handle : Nat) (exitCode : Int32) :
    Keeps (Answered []) (handleChildExit env handle exitCode) := by
  have hrest : ∀ t : Terminal, Keeps (Answered [])
      (emit ((t.pipelineChildren.filter (· = handle)).map .wait) >>= fun _ =>
        modifyTerm fun t => { t with pipelineChildren := t.pipelineChildren.filter (· ≠ handle) }) :=
    fun _ => keeps_then (keeps_emit (responses_waits _)) (keeps_modifyTerm fun _ => List.Sublist.refl _)
  unfold handleChildExit
  refine keeps_getTerm_bind fun t => ?_
  dsimp only
  have hdrop : Keeps (Answered []) (modifyTerm fun t => { t with child := none, pendingInput := none }) :=
    keeps_modifyTerm fun _ => List.nil_sublist _
  split
  · refine keeps_then (keeps_emit rfl) ?_
    split
    · exact keeps_then (keeps_draw env _) (keeps_then (keeps_draw env _)
        (keeps_then hdrop (keeps_getTerm_bind hrest)))
    · exact keeps_then hdrop (keeps_getTerm_bind hrest)
  · exact keeps_getTerm_bind hrest

theorem keeps_handleInput (input : Input) : Keeps (Answered input.requested) (handleInput env input) := by
  cases input with
  | key _ code value => exact keeps_handleKeyEvent env code _
  | message handle bytes => exact keeps_processChildMessage env handle bytes
  | exited handle exitCode =>
      exact keeps_then (keeps_handleChildExit env handle exitCode)
        (keeps_then (keeps_draw env _) (keeps_draw env _))

end Handlers

/-! ## Whole runs -/

/-- A step is its handler, run from the terminal with nothing done yet. -/
theorem Terminal.step_inv {env : Env} {t t' : Terminal} {input : Input} {effects : List Effect}
    (h : t.step env input = .ok (t', effects)) :
    ∃ s, (handleInput env input).run ⟨t, []⟩ = .ok ((), s) ∧ s.term = t' ∧ s.effects = effects := by
  obtain ⟨⟨_, s⟩, hrun, hs⟩ := except_bind_eq_ok.mp h
  cases hs
  exact ⟨s, hrun, rfl, rfl⟩

/-- A run of inputs is its first step, then the run of the rest. -/
theorem Terminal.run_cons_inv {env : Env} {t t' : Terminal} {input : Input} {inputs : List Input}
    {effects : List Effect} (h : t.run env (input :: inputs) = .ok (t', effects)) :
    ∃ t₁ e₁ e₂, t.step env input = .ok (t₁, e₁) ∧ t₁.run env inputs = .ok (t', e₂) ∧ effects = e₁ ++ e₂ := by
  obtain ⟨⟨t₁, e₁⟩, h₁, h⟩ := except_bind_eq_ok.mp h
  obtain ⟨⟨t₂, e₂⟩, h₂, h⟩ := except_bind_eq_ok.mp h
  obtain ⟨rfl, rfl⟩ : t₂ = t' ∧ e₁ ++ e₂ = effects := by simpa [pure, Except.pure] using h
  exact ⟨t₁, e₁, e₂, h₁, h₂, rfl⟩

/-- One input: what is sent and left pending came from what was pending
and the request the input read. -/
theorem Terminal.step_answered {env : Env} {t t' : Terminal} {input : Input} {effects : List Effect}
    (h : t.step env input = .ok (t', effects)) :
    (responses effects ++ t'.pendingKey).Sublist (t.pendingKey ++ input.requested) := by
  obtain ⟨s, hrun, rfl, rfl⟩ := Terminal.step_inv h
  simpa [Answered, responses] using keeps_handleInput env input ⟨t, []⟩ () s hrun

open List in
/-- The run lemma: every response, and the request left pending, answers a
request read during the run or pending before it, each at most once and in
the order read. -/
theorem Terminal.run_answered (env : Env) : ∀ (inputs : List Input) (t t' : Terminal) (effects : List Effect),
    t.run env inputs = .ok (t', effects) →
      (responses effects ++ t'.pendingKey).Sublist (t.pendingKey ++ inputs.flatMap Input.requested)
  | [], t, t', effects, h => by
      cases h
      simp [responses]
  | input :: inputs, t, t', effects, h => by
      obtain ⟨t₁, e₁, e₂, h₁, h₂, rfl⟩ := Terminal.run_cons_inv h
      have hstep := Terminal.step_answered h₁
      have hrest := Terminal.run_answered env inputs t₁ t' e₂ h₂
      calc responses (e₁ ++ e₂) ++ t'.pendingKey
          = responses e₁ ++ (responses e₂ ++ t'.pendingKey) := by simp
        _ <+ responses e₁ ++ (t₁.pendingKey ++ inputs.flatMap Input.requested) := hrest.append_left _
        _ = (responses e₁ ++ t₁.pendingKey) ++ inputs.flatMap Input.requested := by simp
        _ <+ (t.pendingKey ++ input.requested) ++ inputs.flatMap Input.requested := hstep.append_right _
        _ = t.pendingKey ++ (input :: inputs).flatMap Input.requested := by simp

/-- From a fresh terminal, every `InputResponse` sent, and the request
left pending, answers a `RequestInput` a child sent, on that child's
channel and with its id; each is answered at most once, in the order the
requests came. -/
theorem terminal_answers_requests (env : Env) {width height avgCharWidth : Nat} (h : 0 < avgCharWidth)
    {inputs : List Input} {t' : Terminal} {effects : List Effect}
    (hrun : (Terminal.new width height avgCharWidth h).run env inputs = .ok (t', effects)) :
    (responses effects ++ t'.pendingKey).Sublist (inputs.flatMap Input.requested) := by
  simpa [Terminal.new, Terminal.pendingKey] using Terminal.run_answered env inputs _ t' effects hrun

/-- A child asks for a line, and "hi" and Enter are typed. -/
theorem terminal_answers_line_request :
    let inputs := [Input.message 7 (Request.requestInput ⟨1, .line, none, []⟩).toBytes,
      .key 1 35 1, .key 1 23 1, .key 1 28 1]
    ∃ t' effects, (Terminal.new 640 480 8 (by decide)).run ⟨fun _ => 8, fun _ c => c, fun _ => none⟩ inputs =
        .ok (t', effects) ∧ (responses effects ++ t'.pendingKey).Sublist (inputs.flatMap Input.requested) :=
  ⟨_, _, rfl, terminal_answers_requests _ _ rfl⟩

end PandaOs.Userspace
