import PandaOs.Resource.Mailbox

/-!
# The virtio keyboard and the key-event word

The ABI packs a key event into one mailbox event word: the
`EVENT_KEYBOARD_KEY` flag in bit 4, the key code in bits 8 to 23 and the
key value (release, press, repeat) in bits 24 and 25. `encode_key_event`
builds the word, and `decode_key_code` and `decode_key_value` read the two
fields back.

`VirtioKeyboard::poll` drains the device's pending events. For each one of
type `EV_KEY` it posts the encoded word through every attached
`MailboxRef`; the value is cut to a `u8` first. The ring buffer that
`poll` also fills serves `read` on the keyboard resource and is left out,
and so are the interrupt acknowledgement and the device's own waker.
-/

namespace PandaOs.Abi

/-- `EventFlags::KEYBOARD_KEY`, the value of `EVENT_KEYBOARD_KEY`. -/
def eventKeyboardKey : UInt32 := (1 : UInt32) <<< 4

/-- `EVENT_KEY_CODE_SHIFT`. -/
def eventKeyCodeShift : UInt32 := 8

/-- `EVENT_KEY_CODE_MASK`. -/
def eventKeyCodeMask : UInt32 := 0xFFFF

/-- `EVENT_KEY_VALUE_SHIFT`. -/
def eventKeyValueShift : UInt32 := 24

/-- `EVENT_KEY_VALUE_MASK`. -/
def eventKeyValueMask : UInt32 := 0x3

/-- `encode_key_event`. -/
def encodeKeyEvent (code : UInt16) (value : UInt8) : UInt32 :=
  eventKeyboardKey ||| (code.toUInt32 <<< eventKeyCodeShift) |||
    ((value.toUInt32 &&& eventKeyValueMask) <<< eventKeyValueShift)

/-- `decode_key_code`. -/
def decodeKeyCode (flags : UInt32) : UInt16 :=
  ((flags >>> eventKeyCodeShift) &&& eventKeyCodeMask).toUInt16

/-- `decode_key_value`. -/
def decodeKeyValue (flags : UInt32) : UInt8 :=
  ((flags >>> eventKeyValueShift) &&& eventKeyValueMask).toUInt8

end PandaOs.Abi

namespace PandaOs.Device

open PandaOs.Abi PandaOs.Resource

/-- `InputEvent`, as the virtio-input device reports it. -/
structure InputEvent where
  eventType : UInt16
  code : UInt16
  value : UInt32
  deriving DecidableEq, Repr

/-- `EV_KEY`. -/
def evKey : UInt16 := 0x01

/-- The posts of `VirtioKeyboard::poll`, in order: for each key event the
device hands over, the encoded word through each attached `MailboxRef`. -/
def VirtioKeyboard.poll (mailboxes : List MailboxRef) (events : List InputEvent) :
    List MailboxOp :=
  events.flatMap fun event =>
    if event.eventType = evKey then
      mailboxes.map fun r => .refPostEvent r (encodeKeyEvent event.code event.value.toUInt8)
    else []

end PandaOs.Device
