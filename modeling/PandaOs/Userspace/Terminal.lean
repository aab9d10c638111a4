import PandaOs.Abi.Terminal
import PandaOs.Compositor.Render

/-!
# The terminal: its keyboard, its child's requests and the input it waits for

The terminal is one loop over its mailbox. A key event from the keyboard
goes to `handle_key_event`; a message from a child goes to `handle_request`,
or is rendered when it is a bare `Value` from a pipeline; the exit of a
child ends what it was running. While a child has asked for input
(`RequestInput`), typed keys feed that request, and the terminal answers it
on the child's channel with an `InputResponse` carrying the request's id: a
line or a password on Enter, a character at once, a confirmation on `y` or
`n`. A second request replaces the first, which is then never answered.

The drawing is left abstract. Every drawing call is an `Output`; where it
leaves the cursor (glyph widths, word wrapping, scrolling) is `Env.advance`,
and `measure_char` is `Env.measure`. `MoveCursor` sets the cursor and the
`CursorPosition` query reads it back. What `execute_command` spawns for a
line is `Env.spawn`. A step returns what it drew, sent and waited for, in
order, as `Effect`s.

Arithmetic is `u32` in a dev build, as in the compositor: an overflow
panics. The average character width is that of `M` in the font, which is
positive, so no division by it panics. `shift_pressed` of the loop in `main`
is kept with the terminal; `current_fg` is always `COLOUR_DEFAULT_FG`.
-/

namespace PandaOs.Userspace

open PandaOs.Abi PandaOs.Abi.Terminal

/-! ## `libpanda::keyboard` -/

/-- `KeyValue`. -/
inductive KeyValue where
  | release | press | repeat
  deriving DecidableEq, Repr

/-- `KeyValue::from_u32`. -/
def KeyValue.fromU32 (value : UInt32) : KeyValue :=
  match value.toNat with
  | 0 => .release
  | 1 => .press
  | 2 => .repeat
  | _ => .release

/-- `KEY_BACKSPACE`. -/
def keyBackspace : UInt16 := 14

/-- `KEY_ENTER`. -/
def keyEnter : UInt16 := 28

/-- `KEY_LEFTSHIFT`. -/
def keyLeftShift : UInt16 := 42

/-- `KEY_RIGHTSHIFT`. -/
def keyRightShift : UInt16 := 54

/-- `keycode_to_char`, each `KEY_*` constant written as its evdev code.
The characters that cannot stand in a character literal here are written
by their code point. -/
def keycodeToChar (code : UInt16) (shift : Bool) : Option Char :=
  match code.toNat with
  | 30 => some (if shift then 'A' else 'a')  -- KEY_A
  | 48 => some (if shift then 'B' else 'b')  -- KEY_B
  | 46 => some (if shift then 'C' else 'c')  -- KEY_C
  | 32 => some (if shift then 'D' else 'd')  -- KEY_D
  | 18 => some (if shift then 'E' else 'e')  -- KEY_E
  | 33 => some (if shift then 'F' else 'f')  -- KEY_F
  | 34 => some (if shift then 'G' else 'g')  -- KEY_G
  | 35 => some (if shift then 'H' else 'h')  -- KEY_H
  | 23 => some (if shift then 'I' else 'i')  -- KEY_I
  | 36 => some (if shift then 'J' else 'j')  -- KEY_J
  | 37 => some (if shift then 'K' else 'k')  -- KEY_K
  | 38 => some (if shift then 'L' else 'l')  -- KEY_L
  | 50 => some (if shift then 'M' else 'm')  -- KEY_M
  | 49 => some (if shift then 'N' else 'n')  -- KEY_N
  | 24 => some (if shift then 'O' else 'o')  -- KEY_O
  | 25 => some (if shift then 'P' else 'p')  -- KEY_P
  | 16 => some (if shift then 'Q' else 'q')  -- KEY_Q
  | 19 => some (if shift then 'R' else 'r')  -- KEY_R
  | 31 => some (if shift then 'S' else 's')  -- KEY_S
  | 20 => some (if shift then 'T' else 't')  -- KEY_T
  | 22 => some (if shift then 'U' else 'u')  -- KEY_U
  | 47 => some (if shift then 'V' else 'v')  -- KEY_V
  | 17 => some (if shift then 'W' else 'w')  -- KEY_W
  | 45 => some (if shift then 'X' else 'x')  -- KEY_X
  | 21 => some (if shift then 'Y' else 'y')  -- KEY_Y
  | 44 => some (if shift then 'Z' else 'z')  -- KEY_Z
  | 2 => some (if shift then '!' else '1')  -- KEY_1
  | 3 => some (if shift then '@' else '2')  -- KEY_2
  | 4 => some (if shift then '#' else '3')  -- KEY_3
  | 5 => some (if shift then '$' else '4')  -- KEY_4
  | 6 => some (if shift then '%' else '5')  -- KEY_5
  | 7 => some (if shift then '^' else '6')  -- KEY_6
  | 8 => some (if shift then '&' else '7')  -- KEY_7
  | 9 => some (if shift then '*' else '8')  -- KEY_8
  | 10 => some (if shift then '(' else '9')  -- KEY_9
  | 11 => some (if shift then ')' else '0')  -- KEY_0
  | 57 => some ' '  -- KEY_SPACE
  | 12 => some (if shift then '_' else '-')  -- KEY_MINUS
  | 13 => some (if shift then '+' else '=')  -- KEY_EQUAL
  | 26 => some (if shift then Char.ofNat 123 else '[')  -- KEY_LEFTBRACE: a left brace
  | 27 => some (if shift then Char.ofNat 125 else ']')  -- KEY_RIGHTBRACE: a right brace
  | 39 => some (if shift then ':' else ';')  -- KEY_SEMICOLON
  | 40 => some (if shift then Char.ofNat 34 else Char.ofNat 39)  -- KEY_APOSTROPHE: double, single quote
  | 41 => some (if shift then '~' else Char.ofNat 96)  -- KEY_GRAVE: a grave accent
  | 43 => some (if shift then '|' else Char.ofNat 92)  -- KEY_BACKSLASH: a backslash
  | 51 => some (if shift then '<' else ',')  -- KEY_COMMA
  | 52 => some (if shift then '>' else '.')  -- KEY_DOT
  | 53 => some (if shift then '?' else '/')  -- KEY_SLASH
  | _ => none

/-- `is_shift_key`. -/
def isShiftKey (code : UInt16) : Bool := code == keyLeftShift || code == keyRightShift

/-! ## The terminal's state -/

/-- `MARGIN`. -/
def margin : Nat := 10

/-- `LINE_HEIGHT`. -/
def lineHeight : Nat := 20

/-- `COLOUR_DEFAULT_FG`, which is also `current_fg`. -/
def colourDefaultFg : UInt32 := 0xFFD4D4D4

/-- `PendingInput`. -/
structure PendingInput where
  id : UInt32
  kind : InputKind
  handle : Nat
  buffer : List Char
  deriving DecidableEq, Repr

/-- A drawing call, in the order the terminal makes it. -/
inductive Output where
  /-- `emit_char`. -/
  | char (c : Char) (colour : UInt32)
  /-- `newline`. -/
  | newline
  /-- `unrecord_char` and then `backspace_width`. -/
  | erase (width : Nat)
  /-- `write_str_coloured`. -/
  | text (s : String) (colour : UInt32)
  /-- `render_value`. -/
  | value (v : Value)
  /-- `clear_region`. -/
  | clear (region : ClearRegion)
  /-- `flush`. -/
  | flush

/-- What a step does beyond the terminal's own state. -/
inductive Effect where
  | draw (o : Output)
  /-- `channel::send` of the event's `to_bytes`. -/
  | send (handle : Nat) (event : Event)
  /-- `execute_command` on the line typed. -/
  | execute (line : List Char)
  /-- `process::wait`. -/
  | wait (handle : Nat)

/-- The part of `Terminal` that its input handling reads and writes. -/
structure Terminal where
  width : Nat
  height : Nat
  avgCharWidth : Nat
  avgCharWidth_pos : 0 < avgCharWidth
  cursor : Nat × Nat
  lineBuffer : List Char
  child : Option Nat
  pipelineChildren : List Nat
  pendingInput : Option PendingInput
  shiftPressed : Bool

/-- `Terminal::new` and the `shift_pressed` of `main`: the cursor at the
margin, nothing typed, no child. -/
def Terminal.new (width height avgCharWidth : Nat) (h : 0 < avgCharWidth) : Terminal :=
  ⟨width, height, avgCharWidth, h, (margin, margin), [], none, [], none, false⟩

/-- What the model leaves to the rest of the terminal. -/
structure Env where
  /-- `measure_char`: the font's advance width of a character. -/
  measure : Char → Nat
  /-- Where a drawing call leaves the cursor. -/
  advance : Output → Nat × Nat → Nat × Nat
  /-- What `execute_command` leaves in `child` and `pipeline_children` for
  a line, when it spawns anything. -/
  spawn : List Char → Option (Option Nat × List Nat)

/-- The terminal during a step, with what the step has done so far. -/
structure Session where
  term : Terminal
  effects : List Effect

/-- A step of the terminal, which panics on an overflow. -/
abbrev TermM := StateT Session Compositor.PanicM

def getTerm : TermM Terminal := do
  return (← get).term

def modifyTerm (f : Terminal → Terminal) : TermM Unit :=
  modify fun s => { s with term := f s.term }

def emit (es : List Effect) : TermM Unit :=
  modify fun s => { s with effects := s.effects ++ es }

/-! ## Input handling -/

section Handlers

variable (env : Env)

/-- A drawing call: it moves the cursor as the drawing does. -/
def draw (o : Output) : TermM Unit := do
  modifyTerm fun t => { t with cursor := env.advance o t.cursor }
  emit [.draw o]

/-- `send_input_response`: the pending request is taken, and answered on its channel. -/
def sendInputResponse (value : Option InputValue) : TermM Unit := do
  if let some pending := (← getTerm).pendingInput then
    modifyTerm fun t => { t with pendingInput := none }
    emit [.send pending.handle (.input ⟨pending.id, value⟩)]

/-- `handle_input_char`. -/
def handleInputChar (ch : Char) : TermM Unit := do
  let some pending := (← getTerm).pendingInput | return
  match pending.kind with
  | .char =>
      draw env (.char ch colourDefaultFg)
      draw env .flush
      sendInputResponse (some (.char ch))
  | .line | .password =>
      if pending.kind = .password then draw env (.char '*' colourDefaultFg)
      else draw env (.char ch colourDefaultFg)
      modifyTerm fun t => { t with pendingInput := t.pendingInput.map fun p => { p with buffer := p.buffer ++ [ch] } }
      draw env .flush
  | .confirm =>
      let result := if ch = 'y' ∨ ch = 'Y' then some true else if ch = 'n' ∨ ch = 'N' then some false else none
      if let some b := result then
        draw env (.char ch colourDefaultFg)
        draw env .newline
        draw env .flush
        sendInputResponse (some (.bool b))
  | .choice | .rawKeys => pure ()

/-- `handle_input_enter`. -/
def handleInputEnter : TermM Unit := do
  let some pending := (← getTerm).pendingInput | return
  match pending.kind with
  | .line | .password =>
      draw env .newline
      draw env .flush
      sendInputResponse (some (.text (String.ofList pending.buffer)))
  | _ => pure ()

/-- `handle_input_backspace`: the character taken off is erased by its
width, or by the width of the `*` shown for it. -/
def handleInputBackspace : TermM Unit := do
  let some pending := (← getTerm).pendingInput | return
  match pending.kind with
  | .line | .password =>
      if !pending.buffer.isEmpty then
        let removed := pending.buffer.getLast?
        modifyTerm fun t => { t with pendingInput := t.pendingInput.map fun p => { p with buffer := p.buffer.dropLast } }
        let displayChar := if pending.kind = .password then '*' else removed.getD ' '
        draw env (.erase (env.measure displayChar))
        draw env .flush
  | _ => pure ()

/-- `handle_char`: a character typed at the prompt, after a newline when it
would pass the right margin. -/
def handleChar (ch : Char) : TermM Unit := do
  let t ← getTerm
  let charWidth := env.measure ch
  if (← Compositor.u32Add t.cursor.1 charWidth) > (← Compositor.u32Sub t.width margin) then
    draw env .newline
  draw env (.char ch colourDefaultFg)
  modifyTerm fun t => { t with lineBuffer := t.lineBuffer ++ [ch] }
  draw env .flush

/-- `execute_command`, with what it spawns left to `Env.spawn`. -/
def executeCommand : TermM Unit := do
  let line := (← getTerm).lineBuffer
  emit [.execute line]
  if let some (child, pipeline) := env.spawn line then
    modifyTerm fun t => { t with child, pipelineChildren := pipeline }

/-- `handle_enter`: a line with something besides whitespace is run. -/
def handleEnter : TermM Unit := do
  if (← getTerm).pendingInput.isSome then
    handleInputEnter env
  else
    draw env .newline
    if (← getTerm).lineBuffer.any (!·.isWhitespace) then executeCommand env
    modifyTerm fun t => { t with lineBuffer := [] }
    draw env .flush

/-- `handle_backspace`. -/
def handleBackspace : TermM Unit := do
  if (← getTerm).pendingInput.isSome then
    handleInputBackspace env
  else
    match (← getTerm).lineBuffer.getLast? with
    | some ch =>
        modifyTerm fun t => { t with lineBuffer := t.lineBuffer.dropLast }
        draw env (.erase (env.measure ch))
        draw env .flush
    | none => pure ()

/-- `handle_key_event`: typed characters go to the pending request, or to
the prompt when no child runs. -/
def handleKeyEvent (code : UInt16) (value : KeyValue) : TermM Unit := do
  match value with
  | .press | .repeat =>
      if isShiftKey code then
        modifyTerm fun t => { t with shiftPressed := true }
      else if code = keyEnter then handleEnter env
      else if code = keyBackspace then handleBackspace env
      else
        let t ← getTerm
        if let some ch := keycodeToChar code t.shiftPressed then
          if t.pendingInput.isSome then handleInputChar env ch
          else if t.child.isNone then handleChar env ch
  | .release =>
      if isShiftKey code then modifyTerm fun t => { t with shiftPressed := false }

/-- The answer to a `Query`, from the terminal's size and cursor. -/
def queryResponse (t : Terminal) : TerminalQuery → Compositor.PanicM QueryResponse
  | .size => do
      let cols := (← Compositor.u32Sub t.width (2 * margin)) / t.avgCharWidth
      let rows := (← Compositor.u32Sub t.height (2 * margin)) / lineHeight
      pure (.size cols.toUInt16 rows.toUInt16)
  | .capabilities => pure (.capabilities ⟨.trueColour, false, false, true⟩)
  | .cursorPosition => do
      let col := (← Compositor.u32Sub t.cursor.1 margin) / t.avgCharWidth
      let row := (← Compositor.u32Sub t.cursor.2 margin) / lineHeight
      pure (.cursorPosition row.toUInt16 col.toUInt16)

/-- `handle_request`: one request from the child on `childHandle`. -/
def handleRequest (msg : Request) (childHandle : Nat) : TermM Unit :=
  match msg with
  | .error value => do
      draw env (.text "[ERROR] " 0xFFFF0000)
      draw env (.value value)
      draw env .newline
      draw env .flush
  | .warning value => do
      draw env (.text "[WARN] " 0xFFFFFF00)
      draw env (.value value)
      draw env .newline
      draw env .flush
  | .write value => do
      draw env (.value value)
      draw env .flush
  | .moveCursor row col => do
      let t ← getTerm
      let x ← Compositor.u32Add margin (← Compositor.u32Mul col.toNat t.avgCharWidth)
      let y ← Compositor.u32Add margin (← Compositor.u32Mul row.toNat lineHeight)
      modifyTerm fun t => { t with cursor := (x, y) }
  | .clear region => draw env (.clear region)
  | .requestInput req => do
      if let some prompt := req.prompt then draw env (.value prompt)
      modifyTerm fun t => { t with pendingInput := some ⟨req.id, req.kind, childHandle, []⟩ }
  | .setTitle _ => pure ()
  | .progress current total message => do
      let percent ← if total.toNat > 0 then do
          let scaled ← Compositor.u32Mul current.toNat 100
          pure (scaled / total.toNat)
        else pure 0
      draw env (.text ("[" ++ toString percent ++ "%] " ++ message) colourDefaultFg)
      draw env .newline
      draw env .flush
  | .query q => do
      let response ← queryResponse (← getTerm) q
      emit [.send childHandle (.queryResponse response)]
  | .exit _ => pure ()

/-- One message of `process_child_messages`: a request, or else a bare
`Value` from a pipeline, which is rendered. An empty message ends the
loop, and is nothing here. -/
def processChildMessage (handle : Nat) (bytes : List UInt8) : TermM Unit :=
  if bytes.isEmpty then pure ()
  else
    match Request.fromBytes bytes with
    | .ok (msg, _) => handleRequest env msg handle
    | .error _ =>
        match Value.fromBytes bytes with
        | .ok value => do
            draw env (.value value)
            draw env .flush
        | .error _ => pure ()

/-- `handle_child_exit`, with the exit code `process::wait` returns: the
exit of the running child ends its pending request, and every stage of a
pipeline with that handle is waited for and dropped. -/
def handleChildExit (handle : Nat) (exitCode : Int32) : TermM Unit := do
  if (← getTerm).child = some handle then
    emit [.wait handle]
    if exitCode ≠ 0 then
      draw env (.text ("(exited with code " ++ toString exitCode.toInt ++ ")") colourDefaultFg)
      draw env .newline
    modifyTerm fun t => { t with child := none, pendingInput := none }
  emit (((← getTerm).pipelineChildren.filter (· = handle)).map .wait)
  modifyTerm fun t => { t with pipelineChildren := t.pipelineChildren.filter (· ≠ handle) }

/-- What `main`'s loop takes from the mailbox. -/
inductive Input where
  /-- A `RawInputEvent` read by `process_keyboard_events`; its type is not looked at. -/
  | key (eventType code : UInt16) (value : UInt32)
  /-- A message `process_child_messages` took from the channel of a child. -/
  | message (handle : Nat) (bytes : List UInt8)
  /-- `ProcessEvent::Exited` of a child, with the code `process::wait` returns. -/
  | exited (handle : Nat) (exitCode : Int32)

/-- One input of the loop of `main`. -/
def handleInput : Input → TermM Unit
  | .key _ code value => handleKeyEvent env code (KeyValue.fromU32 value)
  | .message handle bytes => processChildMessage env handle bytes
  | .exited handle exitCode => do
      handleChildExit env handle exitCode
      draw env (.text "> " colourDefaultFg)
      draw env .flush

end Handlers

/-- The terminal after one input, and what it drew, sent and waited for. -/
def Terminal.step (env : Env) (t : Terminal) (input : Input) : Compositor.PanicM (Terminal × List Effect) := do
  let ((), s) ← (handleInput env input).run ⟨t, []⟩
  pure (s.term, s.effects)

/-- A run of the loop: the inputs in order, and all that was done. -/
def Terminal.run (env : Env) (t : Terminal) : List Input → Compositor.PanicM (Terminal × List Effect)
  | [] => pure (t, [])
  | input :: inputs => do
      let (t, effects) ← t.step env input
      let (t, rest) ← t.run env inputs
      pure (t, effects ++ rest)

end PandaOs.Userspace
