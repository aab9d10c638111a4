import PandaOs.Proofs.TerminalInput

/-!
# Keys typed while a child waits

With a request pending, every key goes to the request: Enter, Backspace and
the characters reach `handle_input_enter`, `handle_input_backspace` and
`handle_input_char`, and the shift keys only change the shift state
(`handleKeyEvent_of_pending`). What a key then does depends on the kind of
the request.

A `Line` or a `Password` request is a line editor (`LineKeyStep`): a key
types a character, erases the last one, submits the text, or does nothing.
A password shows `*` in place of each character, and its text goes only to
the child that asked (`password_never_echoed`). A `Confirm` request is
answered by y, Y, n or N and by no other key. A `Choice` or a `RawKeys`
request is never answered from the keyboard: the source leaves both kinds
to do, and whatever is typed while one is pending is dropped.

With no request pending, the keys typed at the prompt build the line
(`typed_line_at_prompt`), and Enter runs it when it holds more than
whitespace (`Terminal.step_enter_prompt`).
-/

namespace PandaOs.Userspace

open PandaOs.Lib PandaOs.Abi PandaOs.Abi.Terminal

section Dispatch

variable (env : Env)

/-- With a request pending, a key reaches the request's handlers or changes
nothing a child or the screen sees. -/
theorem handleKeyEvent_of_pending {s s' : Session} {code : UInt16} {value : KeyValue}
    (hp : s.term.pendingInput.isSome) (h : (handleKeyEvent env code value).run s = .ok ((), s')) :
    (s'.effects = s.effects ∧ s'.term.pendingInput = s.term.pendingInput) ∨
      (handleInputEnter env).run s = .ok ((), s') ∨
      (handleInputBackspace env).run s = .ok ((), s') ∨
      ∃ ch, keycodeToChar code s.term.shiftPressed = some ch ∧ (handleInputChar env ch).run s = .ok ((), s') := by
  unfold handleKeyEvent at h
  cases value
  case release =>
    left
    split_ifs at h <;> simp at h <;> cases h <;> simp
  -- a press and a repeat: the shift keys, Enter, Backspace, then the characters
  all_goals
    dsimp only at h
    split_ifs at h
    · left; simp at h; cases h; simp
    · right; left; simpa [handleEnter, hp] using h
    · right; right; left; simpa [handleBackspace, hp] using h
    · cases hc : keycodeToChar code s.term.shiftPressed
      · left; simp [hc] at h; cases h; simp
      · right; right; right; simp [hc, hp] at h; exact ⟨_, rfl, h⟩

/-- A repeat is handled as a press. -/
theorem handleKeyEvent_of_ne_release {code : UInt16} {value : KeyValue} (hv : value ≠ .release) :
    handleKeyEvent env code value = handleKeyEvent env code .press := by
  cases value
  case release => exact absurd rfl hv
  all_goals rfl

/-- A key of a step: the handler of the event, run from the terminal. -/
theorem Terminal.step_key {t t' : Terminal} {eventType code : UInt16} {value : UInt32} {effects : List Effect}
    (h : t.step env (.key eventType code value) = .ok (t', effects)) :
    ∃ s, (handleKeyEvent env code (KeyValue.fromU32 value)).run ⟨t, []⟩ = .ok ((), s) ∧
      s.term = t' ∧ s.effects = effects :=
  Terminal.step_inv h

end Dispatch

/-! ## Line and password requests -/

/-- The character the screen shows for `ch` typed into `p`: a star for a password. -/
def PendingInput.shown (p : PendingInput) (ch : Char) : Char :=
  if p.kind = .password then '*' else ch

/-- What one key does to a pending `Line` or `Password` request `p`, as the
child and the screen see it: the effects and the request left pending. -/
inductive LineKeyStep (env : Env) (p : PendingInput) : List Effect → Option PendingInput → Prop
  | ignored : LineKeyStep env p [] (some p)
  | typed (ch : Char) :
      LineKeyStep env p [.draw (.char (p.shown ch) colourDefaultFg), .draw .flush]
        (some { p with buffer := p.buffer ++ [ch] })
  | erased (ch : Char) (hch : p.buffer.getLast? = some ch) :
      LineKeyStep env p [.draw (.erase (env.measure (p.shown ch))), .draw .flush]
        (some { p with buffer := p.buffer.dropLast })
  | submitted :
      LineKeyStep env p [.draw .newline, .draw .flush, .send p.handle (.input ⟨p.id, some (.text (String.ofList p.buffer))⟩)]
        none

/-- A piece of a step that does one `LineKeyStep` of `p`. -/
def LineStep (env : Env) (p : PendingInput) (s s' : Session) : Prop :=
  ∃ es, s'.effects = s.effects ++ es ∧ LineKeyStep env p es s'.term.pendingInput

section Line

variable (env : Env) {s s' : Session} {p : PendingInput}

theorem LineStep.of {es : List Effect} {q : Option PendingInput} (hes : s'.effects = s.effects ++ es)
    (hq : s'.term.pendingInput = q) (hstep : LineKeyStep env p es q) : LineStep env p s s' :=
  ⟨es, hes, hq ▸ hstep⟩

theorem lineStep_ignored (hp : s.term.pendingInput = some p) (hs : s'.effects = s.effects)
    (hs' : s'.term.pendingInput = s.term.pendingInput) : LineStep env p s s' :=
  LineStep.of env (by simp [hs]) (hs'.trans hp) .ignored

theorem handleInputChar_line {ch : Char} (hp : s.term.pendingInput = some p)
    (hk : p.kind = .line ∨ p.kind = .password) (h : (handleInputChar env ch).run s = .ok ((), s')) :
    LineStep env p s s' := by
  rcases hk with hk | hk <;> simp [handleInputChar, hp, hk] at h <;> cases h <;>
    exact LineStep.of env (by simp [PendingInput.shown, hk]) (by simp [hk]) (.typed ch)

theorem handleInputEnter_line (hp : s.term.pendingInput = some p) (hk : p.kind = .line ∨ p.kind = .password)
    (h : (handleInputEnter env).run s = .ok ((), s')) : LineStep env p s s' := by
  rcases hk with hk | hk <;> simp [handleInputEnter, hp, hk, sendInputResponse] at h <;> cases h <;>
    exact LineStep.of env (by simp) rfl .submitted

theorem handleInputBackspace_line (hp : s.term.pendingInput = some p) (hk : p.kind = .line ∨ p.kind = .password)
    (h : (handleInputBackspace env).run s = .ok ((), s')) : LineStep env p s s' := by
  -- an empty buffer is left as it is; otherwise its last character is erased
  cases hl : p.buffer.getLast? with
  | none =>
      have hb : p.buffer = [] := List.getLast?_eq_none_iff.mp hl
      rcases hk with hk | hk <;> simp [handleInputBackspace, hp, hk, hb] at h <;> cases h <;>
        exact lineStep_ignored env hp rfl rfl
  | some ch =>
      have hb : p.buffer ≠ [] := fun hb => by simp [hb] at hl
      rcases hk with hk | hk <;> simp [handleInputBackspace, hp, hk, hb, hl] at h <;> cases h <;>
        exact LineStep.of env (by simp [PendingInput.shown, hk]) (by simp [hk]) (.erased ch hl)

/-- A key typed into a `Line` or a `Password` request is one edit of it. -/
theorem handleKeyEvent_line {code : UInt16} {value : KeyValue} (hp : s.term.pendingInput = some p)
    (hk : p.kind = .line ∨ p.kind = .password) (h : (handleKeyEvent env code value).run s = .ok ((), s')) :
    LineStep env p s s' := by
  rcases handleKeyEvent_of_pending env (by simp [hp]) h with ⟨hs, hs'⟩ | h | h | ⟨ch, -, h⟩
  · exact lineStep_ignored env hp hs hs'
  · exact handleInputEnter_line env hp hk h
  · exact handleInputBackspace_line env hp hk h
  · exact handleInputChar_line env hp hk h

end Line

/-- A key typed while a `Line` or a `Password` request is pending types a
character into it, erases its last character, submits its text to the
child that asked, or does nothing the child or the screen sees. -/
theorem Terminal.step_lineInput {env : Env} {t t' : Terminal} {p : PendingInput} {eventType code : UInt16}
    {value : UInt32} {effects : List Effect} (hp : t.pendingInput = some p)
    (hk : p.kind = .line ∨ p.kind = .password)
    (h : t.step env (.key eventType code value) = .ok (t', effects)) :
    LineKeyStep env p effects t'.pendingInput := by
  obtain ⟨s, hrun, rfl, rfl⟩ := Terminal.step_key env h
  obtain ⟨es, hes, hstep⟩ := handleKeyEvent_line env hp hk hrun
  simpa [hes] using hstep

/-- "ab", typed into a line request. -/
theorem step_lineInput_typed :
    let t : Terminal := { Terminal.new 640 480 8 (by decide) with pendingInput := some ⟨1, .line, 7, ['a']⟩ }
    ∃ t' effects, t.step ⟨fun _ => 8, fun _ c => c, fun _ => none⟩ (.key 1 48 1) = .ok (t', effects) ∧
      LineKeyStep ⟨fun _ => 8, fun _ c => c, fun _ => none⟩ ⟨1, .line, 7, ['a']⟩ effects t'.pendingInput := by
  intro t
  obtain ⟨t', effects, h⟩ : ∃ t' effects,
      t.step ⟨fun _ => 8, fun _ c => c, fun _ => none⟩ (.key 1 48 1) = .ok (t', effects) := ⟨_, _, rfl⟩
  exact ⟨t', effects, h, Terminal.step_lineInput rfl (.inl rfl) h⟩

/-- While a password is pending, a key draws nothing but a star, a newline,
a flush, or the erasing of a star: no character typed reaches the screen. -/
theorem password_never_echoed {env : Env} {t t' : Terminal} {p : PendingInput} {eventType code : UInt16}
    {value : UInt32} {effects : List Effect} (hp : t.pendingInput = some p) (hk : p.kind = .password)
    (h : t.step env (.key eventType code value) = .ok (t', effects)) :
    ∀ o, Effect.draw o ∈ effects →
      o = .char '*' colourDefaultFg ∨ o = .flush ∨ o = .newline ∨ o = .erase (env.measure '*') := by
  intro o ho
  have hstep := Terminal.step_lineInput hp (.inr hk) h
  generalize t'.pendingInput = q at hstep
  cases hstep <;> simp [PendingInput.shown, hk] at ho <;> rcases ho with rfl | rfl <;> simp

/-- The letter "b", typed at a password prompt. -/
theorem password_never_echoed_b :
    let t : Terminal := { Terminal.new 640 480 8 (by decide) with pendingInput := some ⟨1, .password, 7, []⟩ }
    ∃ t' effects, t.step ⟨fun _ => 8, fun _ c => c, fun _ => none⟩ (.key 1 48 1) = .ok (t', effects) ∧
      ∀ o, Effect.draw o ∈ effects → o = .char '*' colourDefaultFg ∨ o = .flush ∨ o = .newline ∨ o = .erase 8 := by
  intro t
  obtain ⟨t', effects, h⟩ : ∃ t' effects,
      t.step ⟨fun _ => 8, fun _ c => c, fun _ => none⟩ (.key 1 48 1) = .ok (t', effects) := ⟨_, _, rfl⟩
  exact ⟨t', effects, h, password_never_echoed rfl rfl h⟩

/-! ## Requests answered by one key, or by none -/

section OneKey

variable (env : Env) {s s' : Session} {p : PendingInput}

/-- Enter and Backspace do nothing to a request that is not a line. -/
theorem handleInputEnter_of_not_line (hp : s.term.pendingInput = some p)
    (hk : p.kind ≠ .line ∧ p.kind ≠ .password) (h : (handleInputEnter env).run s = .ok ((), s')) : s' = s := by
  cases hkind : p.kind <;> simp_all [handleInputEnter]
  all_goals cases h; rfl

theorem handleInputBackspace_of_not_line (hp : s.term.pendingInput = some p)
    (hk : p.kind ≠ .line ∧ p.kind ≠ .password) (h : (handleInputBackspace env).run s = .ok ((), s')) : s' = s := by
  cases hkind : p.kind <;> simp_all [handleInputBackspace]
  all_goals cases h; rfl

/-- With a request pending that is not a line, only a typed character can
reach it. -/
theorem handleKeyEvent_of_not_line {code : UInt16} {value : KeyValue} (hp : s.term.pendingInput = some p)
    (hk : p.kind ≠ .line ∧ p.kind ≠ .password) (h : (handleKeyEvent env code value).run s = .ok ((), s')) :
    (s'.effects = s.effects ∧ s'.term.pendingInput = some p) ∨
      ∃ ch, keycodeToChar code s.term.shiftPressed = some ch ∧ (handleInputChar env ch).run s = .ok ((), s') := by
  rcases handleKeyEvent_of_pending env (by simp [hp]) h with ⟨hs, hs'⟩ | h | h | hch
  · exact .inl ⟨hs, hs'.trans hp⟩
  · cases handleInputEnter_of_not_line env hp hk h
    exact .inl ⟨rfl, hp⟩
  · cases handleInputBackspace_of_not_line env hp hk h
    exact .inl ⟨rfl, hp⟩
  · exact .inr hch

/-- A character answers a `Confirm` request when it is y, Y, n or N. -/
theorem handleInputChar_confirm {ch : Char} (hp : s.term.pendingInput = some p) (hk : p.kind = .confirm)
    (h : (handleInputChar env ch).run s = .ok ((), s')) :
    s' = s ∨ (ch = 'y' ∨ ch = 'Y' ∨ ch = 'n' ∨ ch = 'N') ∧
      s'.effects = s.effects ++ [Effect.draw (.char ch colourDefaultFg), .draw .newline, .draw .flush,
        .send p.handle (.input ⟨p.id, some (.bool (ch = 'y' ∨ ch = 'Y'))⟩)] ∧ s'.term.pendingInput = none := by
  simp only [handleInputChar, StateT.run_bind, run_getTerm, hp, pure_bind, hk] at h
  -- the answer is yes, no, or none
  split_ifs at h with hy hn
  · right
    simp [sendInputResponse, hp] at h
    cases h
    simp_all
    exact hy.imp_right Or.inl
  · right
    simp [sendInputResponse, hp] at h
    cases h
    simp_all
  · left
    cases h
    rfl

/-- A `Choice` or a `RawKeys` request takes no character. -/
theorem handleInputChar_unanswered {ch : Char} (hp : s.term.pendingInput = some p)
    (hk : p.kind = .choice ∨ p.kind = .rawKeys) (h : (handleInputChar env ch).run s = .ok ((), s')) : s' = s := by
  rcases hk with hk | hk <;> simp [handleInputChar, hp, hk] at h <;> cases h <;> rfl

end OneKey

/-- A key typed while a `Choice` or a `RawKeys` request is pending does
nothing the child or the screen sees. -/
theorem Terminal.step_unanswered {env : Env} {t t' : Terminal} {p : PendingInput} {eventType code : UInt16}
    {value : UInt32} {effects : List Effect} (hp : t.pendingInput = some p)
    (hk : p.kind = .choice ∨ p.kind = .rawKeys)
    (h : t.step env (.key eventType code value) = .ok (t', effects)) :
    effects = [] ∧ t'.pendingInput = some p := by
  obtain ⟨s, hrun, rfl, rfl⟩ := Terminal.step_key env h
  have hnl : p.kind ≠ .line ∧ p.kind ≠ .password := by rcases hk with hk | hk <;> simp [hk]
  rcases handleKeyEvent_of_not_line env (s := ⟨t, []⟩) hp hnl hrun with ⟨hs, hs'⟩ | ⟨ch, -, h⟩
  · exact ⟨hs, hs'⟩
  · cases handleInputChar_unanswered env hp hk h
    exact ⟨rfl, hp⟩

/-- A `Choice` or a `RawKeys` request is never answered from the keyboard:
over any run of keys it stays pending, and nothing is drawn or sent. -/
theorem choice_never_answered {env : Env} {p : PendingInput} (hk : p.kind = .choice ∨ p.kind = .rawKeys) :
    ∀ (inputs : List Input) (t t' : Terminal) (effects : List Effect), t.pendingInput = some p →
      (∀ i ∈ inputs, ∃ eventType code value, i = .key eventType code value) →
      t.run env inputs = .ok (t', effects) → effects = [] ∧ t'.pendingInput = some p
  | [], t, t', effects, hp, _, h => by
      cases h
      exact ⟨rfl, hp⟩
  | input :: inputs, t, t', effects, hp, hkeys, h => by
      obtain ⟨t₁, e₁, e₂, h₁, h₂, rfl⟩ := Terminal.run_cons_inv h
      obtain ⟨eventType, code, value, rfl⟩ := hkeys input List.mem_cons_self
      -- the key leaves the request pending, and so do the rest
      obtain ⟨rfl, hp₁⟩ := Terminal.step_unanswered hp hk h₁
      obtain ⟨rfl, hp₂⟩ := choice_never_answered hk inputs t₁ t' e₂ hp₁
        (fun i hi => hkeys i (List.mem_cons_of_mem _ hi)) h₂
      exact ⟨rfl, hp₂⟩

/-- "a", Enter and Backspace, typed while a choice is pending. -/
theorem choice_never_answered_keys :
    let t : Terminal := { Terminal.new 640 480 8 (by decide) with pendingInput := some ⟨1, .choice, 7, []⟩ }
    let inputs := [Input.key 1 30 1, .key 1 28 1, .key 1 14 1]
    ∃ t' effects, t.run ⟨fun _ => 8, fun _ c => c, fun _ => none⟩ inputs = .ok (t', effects) ∧
      effects = [] ∧ t'.pendingInput = some ⟨1, .choice, 7, []⟩ := by
  intro t inputs
  obtain ⟨t', effects, h⟩ : ∃ t' effects,
      t.run ⟨fun _ => 8, fun _ c => c, fun _ => none⟩ inputs = .ok (t', effects) := ⟨_, _, rfl⟩
  exact ⟨t', effects, h, choice_never_answered (.inl rfl) inputs t t' effects rfl (by simp [inputs]) h⟩

/-! ## The prompt -/

/-- A character typed at the prompt, with no request pending and no child
running, goes to the end of the line. -/
theorem Terminal.step_char_prompt {env : Env} {t t' : Terminal} {eventType code : UInt16} {value : UInt32}
    {effects : List Effect} {ch : Char} (hp : t.pendingInput = none) (hc : t.child = none)
    (hv : KeyValue.fromU32 value ≠ .release) (hch : keycodeToChar code t.shiftPressed = some ch)
    (hkey : isShiftKey code = false ∧ code ≠ keyEnter ∧ code ≠ keyBackspace)
    (h : t.step env (.key eventType code value) = .ok (t', effects)) :
    t'.lineBuffer = t.lineBuffer ++ [ch] ∧ t'.shiftPressed = t.shiftPressed ∧ t'.pendingInput = none ∧
      t'.child = none := by
  obtain ⟨s, hrun, rfl, rfl⟩ := Terminal.step_key env h
  obtain ⟨hs, he, hb⟩ := hkey
  -- a press or a repeat of a character key reaches handle_char
  have hchar : (handleChar env ch).run ⟨t, []⟩ = .ok ((), s) := by
    rw [handleKeyEvent_of_ne_release env hv] at hrun
    simpa only [handleKeyEvent, hs, he, hb, Bool.false_eq_true, ↓reduceIte, StateT.run_bind, run_getTerm,
      pure_bind, hch, hp, hc, Option.isSome_none, Option.isNone_none] using hrun
  simp [handleChar, Compositor.u32Add, Compositor.u32Sub] at hchar
  -- the margin test does not overflow; the line wraps first or not
  split_ifs at hchar <;> simp at hchar
  split_ifs at hchar <;> simp at hchar <;> cases hchar <;> simp [hp, hc]

/-- Keys typed at the prompt, with no request pending and no child running
and the shift keys up, put their characters at the end of the line, in
order. -/
theorem typed_line_at_prompt {env : Env} :
    ∀ (keys : List (UInt16 × Char)) (t t' : Terminal) (effects : List Effect),
      t.pendingInput = none → t.child = none → t.shiftPressed = false →
      (∀ k ∈ keys, keycodeToChar k.1 false = some k.2 ∧ isShiftKey k.1 = false ∧ k.1 ≠ keyEnter ∧
        k.1 ≠ keyBackspace) →
      t.run env (keys.map fun k => .key 1 k.1 1) = .ok (t', effects) →
      t'.lineBuffer = t.lineBuffer ++ keys.map Prod.snd
  | [], t, t', effects, _, _, _, _, h => by
      cases h
      simp
  | k :: keys, t, t', effects, hp, hc, hsh, hkeys, h => by
      obtain ⟨t₁, e₁, e₂, h₁, h₂, rfl⟩ := Terminal.run_cons_inv h
      obtain ⟨hch, hkey⟩ := hkeys k List.mem_cons_self
      -- the first key goes to the end of the line, and the state stays a prompt's
      obtain ⟨hl₁, hsh₁, hp₁, hc₁⟩ := Terminal.step_char_prompt hp hc (by decide) (hsh ▸ hch) hkey h₁
      have hrest := typed_line_at_prompt keys t₁ t' e₂ hp₁ hc₁ (hsh₁.trans hsh)
        (fun k hk => hkeys k (List.mem_cons_of_mem _ hk)) h₂
      rw [hrest, hl₁]
      simp

/-- "ls", typed at a fresh prompt. -/
theorem typed_line_at_prompt_ls :
    ∃ t' effects, (Terminal.new 640 480 8 (by decide)).run ⟨fun _ => 8, fun _ c => c, fun _ => none⟩
        ([((38 : UInt16), 'l'), (31, 's')].map fun k => .key 1 k.1 1) = .ok (t', effects) ∧
      t'.lineBuffer = [] ++ ['l', 's'] := by
  obtain ⟨t', effects, h⟩ : ∃ t' effects, (Terminal.new 640 480 8 (by decide)).run
      ⟨fun _ => 8, fun _ c => c, fun _ => none⟩ ([((38 : UInt16), 'l'), (31, 's')].map fun k => .key 1 k.1 1) =
        .ok (t', effects) := ⟨_, _, rfl⟩
  exact ⟨t', effects, h, typed_line_at_prompt _ _ t' effects rfl rfl rfl (by decide) h⟩

end PandaOs.Userspace
