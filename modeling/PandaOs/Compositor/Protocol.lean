import PandaOs.Lib.Frame

/-!
# The compositor wire protocol

`compositor-protocol`'s frames: a one-byte tag and fixed-width little-endian
fields, one frame per channel message. `encode` stores a message into the
caller's buffer and returns the frame's length, or `None` when the buffer is
too short (or a `DisplayFormats` list longer than `MAX_FORMATS`); `decode`
reads one back from a slice and returns `None` on an unknown tag or on a
field read past the slice's end.

A buffer is a list of bytes; `encode` returns the frame length together
with the buffer after its stores. `MAX_FRAME_SIZE` is computed as the
source computes it, from the two longest layouts.
-/

namespace PandaOs.CompositorProtocol

open PandaOs.Lib

/-- `FORMAT_BGRA8888`. -/
def formatBgra8888 : UInt8 := 1

def tagCreateWindow : UInt8 := 1
def tagAttachBuffer : UInt8 := 2
def tagDamage : UInt8 := 3
def tagCommit : UInt8 := 4
def tagFill : UInt8 := 5
def tagSetVisible : UInt8 := 6
def tagMove : UInt8 := 7
def tagDestroyWindow : UInt8 := 8

def tagDisplayFormats : UInt8 := 1
def tagWindowCreated : UInt8 := 2
def tagFrameDone : UInt8 := 3
def tagBufferReleased : UInt8 := 4
def tagClosed : UInt8 := 5

/-- `MAX_FORMATS`. -/
def maxFormats : Nat := 16

/-- `LONGEST_FIXED_FRAME`: `Fill`. -/
def longestFixedFrame : Nat := 1 + 8 + 16 + 4

/-- `LONGEST_VARIABLE_FRAME`: `DisplayFormats` with `MAX_FORMATS` formats. -/
def longestVariableFrame : Nat := 1 + 4 + 4 + 1 + maxFormats

/-- `MAX_FRAME_SIZE`. -/
def maxFrameSize : Nat :=
  if longestFixedFrame > longestVariableFrame then longestFixedFrame else longestVariableFrame

/-- `u32_at`. -/
def u32At (buf : List UInt8) (offset : Nat) : Option UInt32 :=
  (getRange buf offset (offset + 4)).map fun bs => UInt32.ofNat (leValue bs)

/-- `u64_at`. -/
def u64At (buf : List UInt8) (offset : Nat) : Option UInt64 :=
  (getRange buf offset (offset + 8)).map fun bs => UInt64.ofNat (leValue bs)

/-- `Rect`. -/
structure Rect where
  x : UInt32
  y : UInt32
  width : UInt32
  height : UInt32
  deriving DecidableEq, Repr

/-- `put_rect`. -/
def putRect (buf : List UInt8) (offset : Nat) (rect : Rect) : List UInt8 :=
  let buf := copyAt buf offset (leBytes rect.x.toNat 4)
  let buf := copyAt buf (offset + 4) (leBytes rect.y.toNat 4)
  let buf := copyAt buf (offset + 8) (leBytes rect.width.toNat 4)
  copyAt buf (offset + 12) (leBytes rect.height.toNat 4)

/-- `rect_at`. -/
def rectAt (buf : List UInt8) (offset : Nat) : Option Rect := do
  let x ← u32At buf offset
  let y ← u32At buf (offset + 4)
  let width ← u32At buf (offset + 8)
  let height ← u32At buf (offset + 12)
  pure ⟨x, y, width, height⟩

/-- `Request`. -/
inductive Request where
  | createWindow
  | attachBuffer (window : UInt64) (width height : UInt32) (format : UInt8)
  | damage (window : UInt64) (rect : Rect)
  | commit (window : UInt64)
  | fill (window : UInt64) (rect : Rect) (colour : UInt32)
  | setVisible (window : UInt64) (visible : Bool)
  | move (window : UInt64) (x y : UInt32)
  | destroyWindow (window : UInt64)
  deriving DecidableEq, Repr

/-- `Request::encode`: the frame length and the buffer after the stores. -/
def Request.encode (r : Request) (buf : List UInt8) : Option (Nat × List UInt8) :=
  match r with
  | .createWindow =>
      -- `*buf.first_mut()? = TAG_CREATE_WINDOW`
      if buf = [] then none else some (1, buf.set 0 tagCreateWindow)
  | .attachBuffer window width height format =>
      let total := 1 + 8 + 4 + 4 + 1
      if buf.length < total then none
      else
        let buf := buf.set 0 tagAttachBuffer
        let buf := copyAt buf 1 (leBytes window.toNat 8)
        let buf := copyAt buf 9 (leBytes width.toNat 4)
        let buf := copyAt buf 13 (leBytes height.toNat 4)
        some (total, buf.set 17 format)
  | .damage window rect =>
      let total := 1 + 8 + 16
      if buf.length < total then none
      else
        let buf := buf.set 0 tagDamage
        let buf := copyAt buf 1 (leBytes window.toNat 8)
        some (total, putRect buf 9 rect)
  | .commit window =>
      let total := 1 + 8
      if buf.length < total then none
      else
        let buf := buf.set 0 tagCommit
        some (total, copyAt buf 1 (leBytes window.toNat 8))
  | .fill window rect colour =>
      let total := 1 + 8 + 16 + 4
      if buf.length < total then none
      else
        let buf := buf.set 0 tagFill
        let buf := copyAt buf 1 (leBytes window.toNat 8)
        let buf := putRect buf 9 rect
        some (total, copyAt buf 25 (leBytes colour.toNat 4))
  | .setVisible window visible =>
      let total := 1 + 8 + 1
      if buf.length < total then none
      else
        let buf := buf.set 0 tagSetVisible
        let buf := copyAt buf 1 (leBytes window.toNat 8)
        some (total, buf.set 9 (if visible then 1 else 0))
  | .move window x y =>
      let total := 1 + 8 + 4 + 4
      if buf.length < total then none
      else
        let buf := buf.set 0 tagMove
        let buf := copyAt buf 1 (leBytes window.toNat 8)
        let buf := copyAt buf 9 (leBytes x.toNat 4)
        some (total, copyAt buf 13 (leBytes y.toNat 4))
  | .destroyWindow window =>
      let total := 1 + 8
      if buf.length < total then none
      else
        let buf := buf.set 0 tagDestroyWindow
        some (total, copyAt buf 1 (leBytes window.toNat 8))

/-- `Request::decode`. -/
def Request.decode (buf : List UInt8) : Option Request := do
  let tag ← buf.head?
  if tag = tagCreateWindow then
    pure .createWindow
  else if tag = tagAttachBuffer then
    let window ← u64At buf 1
    let width ← u32At buf 9
    let height ← u32At buf 13
    let format ← buf[17]?
    pure (.attachBuffer window width height format)
  else if tag = tagDamage then
    let window ← u64At buf 1
    let rect ← rectAt buf 9
    pure (.damage window rect)
  else if tag = tagCommit then
    let window ← u64At buf 1
    pure (.commit window)
  else if tag = tagFill then
    let window ← u64At buf 1
    let rect ← rectAt buf 9
    let colour ← u32At buf 25
    pure (.fill window rect colour)
  else if tag = tagSetVisible then
    let window ← u64At buf 1
    let visible ← buf[9]?
    pure (.setVisible window (visible != 0))
  else if tag = tagMove then
    let window ← u64At buf 1
    let x ← u32At buf 9
    let y ← u32At buf 13
    pure (.move window x y)
  else if tag = tagDestroyWindow then
    let window ← u64At buf 1
    pure (.destroyWindow window)
  else none

/-- `Event`. `DisplayFormats` borrows its format list from the frame; here
it is the list. -/
inductive Event where
  | displayFormats (width height : UInt32) (formats : List UInt8)
  | windowCreated (window : UInt64)
  | frameDone (window frame : UInt64)
  | bufferReleased (window buffer : UInt64)
  | closed (window : UInt64)
  deriving DecidableEq, Repr

/-- `Event::encode_one`. -/
def Event.encodeOne (buf : List UInt8) (tag : UInt8) (value : UInt64) : Option (Nat × List UInt8) :=
  let total := 1 + 8
  if buf.length < total then none
  else
    let buf := buf.set 0 tag
    some (total, copyAt buf 1 (leBytes value.toNat 8))

/-- `Event::encode_two`. -/
def Event.encodeTwo (buf : List UInt8) (tag : UInt8) (first second : UInt64) :
    Option (Nat × List UInt8) :=
  let total := 1 + 8 + 8
  if buf.length < total then none
  else
    let buf := buf.set 0 tag
    let buf := copyAt buf 1 (leBytes first.toNat 8)
    some (total, copyAt buf 9 (leBytes second.toNat 8))

/-- `Event::encode`. -/
def Event.encode (e : Event) (buf : List UInt8) : Option (Nat × List UInt8) :=
  match e with
  | .displayFormats width height formats =>
      if formats.length > maxFormats then none
      else
        let total := 1 + 4 + 4 + 1 + formats.length
        if buf.length < total then none
        else
          let buf := buf.set 0 tagDisplayFormats
          let buf := copyAt buf 1 (leBytes width.toNat 4)
          let buf := copyAt buf 5 (leBytes height.toNat 4)
          let buf := buf.set 9 formats.length.toUInt8
          some (total, copyAt buf 10 formats)
  | .windowCreated window => Event.encodeOne buf tagWindowCreated window
  | .frameDone window frame => Event.encodeTwo buf tagFrameDone window frame
  | .bufferReleased window buffer => Event.encodeTwo buf tagBufferReleased window buffer
  | .closed window => Event.encodeOne buf tagClosed window

/-- `Event::decode`. -/
def Event.decode (buf : List UInt8) : Option Event := do
  let tag ← buf.head?
  if tag = tagDisplayFormats then
    let count ← buf[9]?
    let width ← u32At buf 1
    let height ← u32At buf 5
    let formats ← getRange buf 10 (10 + count.toNat)
    pure (.displayFormats width height formats)
  else if tag = tagWindowCreated then
    let window ← u64At buf 1
    pure (.windowCreated window)
  else if tag = tagFrameDone then
    let window ← u64At buf 1
    let frame ← u64At buf 9
    pure (.frameDone window frame)
  else if tag = tagBufferReleased then
    let window ← u64At buf 1
    let buffer ← u64At buf 9
    pure (.bufferReleased window buffer)
  else if tag = tagClosed then
    let window ← u64At buf 1
    pure (.closed window)
  else none

end PandaOs.CompositorProtocol
