import PandaOs.Device.Keyboard

/-!
# Key events through a mailbox

One key event makes the trip intact: `decode_key_code` and
`decode_key_value` give back the code and the value, cut to its two bits,
that `encode_key_event` packed (`decodeKeyCode_encodeKeyEvent`,
`decodeKeyValue_encodeKeyEvent`).

Two do not. A mailbox keeps one pending entry per handle, and
`push_event_bounded` ORs a new event into it. The OR of two key words is
the key word of the OR of their codes and of their values
(`encodeKeyEvent_or`). Two key events posted to the keyboard's handle
before a `wait` therefore come back as one word. It decodes to a code that
may never have been posted and to a value that may be none of release,
press and repeat (`coalesced_key_events_decode_unposted`).
-/

namespace PandaOs.Device

open PandaOs.Abi PandaOs.Resource

section Word

variable (code : UInt16) (value : UInt8)

theorem decodeKeyCode_encodeKeyEvent : decodeKeyCode (encodeKeyEvent code value) = code := by
  apply UInt16.eq_of_toBitVec_eq
  simp only [decodeKeyCode, encodeKeyEvent, eventKeyboardKey, eventKeyCodeShift, eventKeyCodeMask,
    eventKeyValueMask, eventKeyValueShift]
  ext i hi
  -- bit `i` of the code is bit `8 + i` of the word, clear of the flag and of the value field
  simp [BitVec.getElem_and]
  interval_cases i <;> simp

theorem decodeKeyValue_encodeKeyEvent :
    decodeKeyValue (encodeKeyEvent code value) = value &&& 3 := by
  apply UInt8.eq_of_toBitVec_eq
  simp only [decodeKeyValue, encodeKeyEvent, eventKeyboardKey, eventKeyCodeShift, eventKeyValueMask,
    eventKeyValueShift]
  ext i hi
  simp [BitVec.getElem_and]
  interval_cases i <;> simp

end Word

/-- The OR of two key words is one key word: the fields do not overlap, so
the codes are ORed and so are the values. -/
theorem encodeKeyEvent_or (c₁ c₂ : UInt16) (v₁ v₂ : UInt8) :
    encodeKeyEvent c₁ v₁ ||| encodeKeyEvent c₂ v₂ = encodeKeyEvent (c₁ ||| c₂) (v₁ ||| v₂) := by
  apply UInt32.eq_of_toBitVec_eq
  simp only [encodeKeyEvent, eventKeyboardKey, eventKeyCodeShift, eventKeyValueMask, eventKeyValueShift]
  ext i hi
  simp
  interval_cases i <;> simp

/-- The keyboard's handle id in the mailbox. -/
def keyboardHandle : Nat := 7

/-- A mailbox with the keyboard attached for key events, one `poll` of the
keyboard with two events, and a `wait`. -/
def pollThenWait (events : List InputEvent) : List MailboxOp :=
  [.attach keyboardHandle eventKeyboardKey] ++ VirtioKeyboard.poll [⟨keyboardHandle⟩] events ++ [.wait]

/-- `KEY_A` (30) then `KEY_B` (48) pressed before a `wait`: the wait returns
one word, which decodes to code 62, pressed by no one. `KEY_A` pressed and
then repeated: the word decodes to value 3, which is none of release (0),
press (1) and repeat (2). -/
theorem coalesced_key_events_decode_unposted :
    ((Mailbox.run (pollThenWait [⟨evKey, 30, 1⟩, ⟨evKey, 48, 1⟩])).2.map fun e =>
        (e.1, decodeKeyCode e.2, decodeKeyValue e.2)) = [(keyboardHandle, 62, 1)] ∧
      ((Mailbox.run (pollThenWait [⟨evKey, 30, 1⟩, ⟨evKey, 30, 2⟩])).2.map fun e =>
        (e.1, decodeKeyCode e.2, decodeKeyValue e.2)) = [(keyboardHandle, 30, 3)] := by
  decide

end PandaOs.Device
