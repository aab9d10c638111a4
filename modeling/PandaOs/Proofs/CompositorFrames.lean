import PandaOs.Compositor.Protocol

/-!
# Compositor frames round trip

A message's frame is written out as its pieces (`Request.frame`,
`Event.frame`): the tag, then each field's little-endian bytes at the offset
the encoder stores it. On a buffer long enough, `encode` lays the frame in
front of the buffer's old tail and returns its length (`Request.encode_eq`,
`Event.encode_eq`); `decode` reads a frame followed by anything back
(`Request.decode_frame_append`, `Event.decode_frame_append`).

For the prefixes: a decode that succeeds has read a whole frame of the
message it returns (`Request.decode_some`, `Event.decode_some`), and the tag
fixes the frame's length (for `DisplayFormats`, with the count byte after
it), so a strict prefix of a frame decodes to nothing
(`Request.decode_take_frame`, `Event.decode_take_frame`). No frame is longer
than `MAX_FRAME_SIZE`. `frames_round_trip` puts these together for the
buffer `encode` returns.
-/

namespace PandaOs.CompositorProtocol

open PandaOs.Lib

/-! ## Field reads -/

theorem u32At_le_length {buf : List UInt8} {offset : Nat} {v : UInt32} (h : u32At buf offset = some v) :
    offset + 4 ≤ buf.length := by
  obtain ⟨bs, hbs, -⟩ := Option.map_eq_some_iff.mp h
  exact getRange_le_length hbs

theorem u64At_le_length {buf : List UInt8} {offset : Nat} {v : UInt64} (h : u64At buf offset = some v) :
    offset + 8 ≤ buf.length := by
  obtain ⟨bs, hbs, -⟩ := Option.map_eq_some_iff.mp h
  exact getRange_le_length hbs

theorem rectAt_le_length {buf : List UInt8} {offset : Nat} {rect : Rect} (h : rectAt buf offset = some rect) :
    offset + 16 ≤ buf.length := by
  simp only [rectAt, Option.bind_eq_bind, Option.bind_eq_some_iff, Option.pure_def] at h
  obtain ⟨-, -, -, -, -, -, height, hheight, -⟩ := h
  have := u32At_le_length hheight
  omega

/-! ## Requests -/

/-- A request's frame: the tag, then the fields at their offsets. -/
def Request.frame : Request → List UInt8
  | .createWindow => [tagCreateWindow]
  | .attachBuffer window width height format =>
      tagAttachBuffer :: (leBytes window.toNat 8 ++ leBytes width.toNat 4 ++ leBytes height.toNat 4 ++ [format])
  | .damage window rect =>
      tagDamage :: (leBytes window.toNat 8 ++ leBytes rect.x.toNat 4 ++ leBytes rect.y.toNat 4 ++
        leBytes rect.width.toNat 4 ++ leBytes rect.height.toNat 4)
  | .commit window => tagCommit :: leBytes window.toNat 8
  | .fill window rect colour =>
      tagFill :: (leBytes window.toNat 8 ++ leBytes rect.x.toNat 4 ++ leBytes rect.y.toNat 4 ++
        leBytes rect.width.toNat 4 ++ leBytes rect.height.toNat 4 ++ leBytes colour.toNat 4)
  | .setVisible window visible => tagSetVisible :: (leBytes window.toNat 8 ++ [if visible then 1 else 0])
  | .move window x y => tagMove :: (leBytes window.toNat 8 ++ leBytes x.toNat 4 ++ leBytes y.toNat 4)
  | .destroyWindow window => tagDestroyWindow :: leBytes window.toNat 8

/-- `Request::encode` stores the frame over the front of the buffer, or
returns `None` when the buffer is shorter than the frame. -/
theorem Request.encode_eq (r : Request) (buf : List UInt8) :
    r.encode buf = if buf.length < r.frame.length then none
      else some (r.frame.length, r.frame ++ buf.drop r.frame.length) := by
  cases r
  case createWindow => cases buf <;> simp [Request.encode, Request.frame]
  -- the two requests whose last store is a single byte
  case attachBuffer window width height format =>
    simp only [Request.encode, Request.frame, List.length_cons, List.length_append, leBytes_length,
      List.length_nil, Nat.reduceAdd]
    split_ifs with h
    · rfl
    · obtain ⟨b, rest, rfl⟩ := List.exists_cons_of_length_pos (show 0 < buf.length by omega)
      have h16 : 16 < rest.length := by simp at h; omega
      simp [copyAt_cons, copyAt_append_of_length_le, copyAt_zero, set_zero_drop h16]
  case setVisible window visible =>
    simp only [Request.encode, Request.frame, List.length_cons, List.length_append, leBytes_length,
      List.length_nil, Nat.reduceAdd]
    split
    · rfl
    · next h =>
        obtain ⟨b, rest, rfl⟩ := List.exists_cons_of_length_pos (show 0 < buf.length by omega)
        have h8 : 8 < rest.length := by simp at h; omega
        simp [copyAt_cons, copyAt_zero, set_zero_drop h8]
  all_goals
    simp only [Request.encode, Request.frame, putRect, List.length_cons, List.length_append,
      leBytes_length, Nat.reduceAdd]
    split_ifs with h
    · rfl
    · obtain ⟨b, rest, rfl⟩ := List.exists_cons_of_length_pos (show 0 < buf.length by omega)
      simp [copyAt_cons, copyAt_append_of_length_le, copyAt_zero]

/-- The byte `visible as u8`, read back with `!= 0`. -/
theorem visible_byte_ne_zero (visible : Bool) : ((if visible then (1 : UInt8) else 0) != 0) = visible := by
  cases visible <;> rfl

/-- `Request::decode` reads a request's frame back, whatever follows it. -/
theorem Request.decode_frame_append (r : Request) (rest : List UInt8) :
    Request.decode (r.frame ++ rest) = some r := by
  cases r <;>
    simp [Request.frame, Request.decode, u64At, u32At, rectAt, getRange_cons, getRange_append_of_length_le,
      getRange_append_zero, List.getElem?_append_right, visible_byte_ne_zero, UInt64.ofNat_leValue_leBytes,
      UInt32.ofNat_leValue_leBytes, tagCreateWindow, tagAttachBuffer, tagDamage, tagCommit, tagFill,
      tagSetVisible, tagMove, tagDestroyWindow]

/-- A request that decodes has had its whole frame read: the buffer starts
with the request's tag and is at least as long as its frame. -/
theorem Request.decode_some {buf : List UInt8} {r : Request} (h : Request.decode buf = some r) :
    buf.head? = r.frame.head? ∧ r.frame.length ≤ buf.length := by
  unfold Request.decode at h
  rcases hb : buf.head? with _ | tag
  · simp [hb] at h
  have hpos : 0 < buf.length := by
    cases buf with
    | nil => simp at hb
    | cons b rest => simp
  simp only [hb, Option.bind_eq_bind, Option.bind_some] at h
  -- one branch per tag; the last field read bounds the buffer's length
  split_ifs at h with h1 h2 h3 h4 h5 h6 h7 h8 <;>
    simp only [Option.bind_eq_some_iff, Option.pure_def, Option.some.injEq] at h
  · subst h
    exact ⟨by simp [Request.frame, h1], by simp [Request.frame]; omega⟩
  · obtain ⟨-, -, -, -, -, -, format, hformat, rfl⟩ := h
    have := (List.getElem?_eq_some_iff.mp hformat).1
    exact ⟨by simp [Request.frame, h2], by simp [Request.frame]; omega⟩
  · obtain ⟨-, -, rect, hrect, rfl⟩ := h
    have := rectAt_le_length hrect
    exact ⟨by simp [Request.frame, h3], by simp [Request.frame]; omega⟩
  · obtain ⟨window, hwindow, rfl⟩ := h
    have := u64At_le_length hwindow
    exact ⟨by simp [Request.frame, h4], by simp [Request.frame]; omega⟩
  · obtain ⟨-, -, -, -, colour, hcolour, rfl⟩ := h
    have := u32At_le_length hcolour
    exact ⟨by simp [Request.frame, h5], by simp [Request.frame]; omega⟩
  · obtain ⟨-, -, visible, hvisible, rfl⟩ := h
    have := (List.getElem?_eq_some_iff.mp hvisible).1
    exact ⟨by simp [Request.frame, h6], by simp [Request.frame]; omega⟩
  · obtain ⟨-, -, -, -, y, hy, rfl⟩ := h
    have := u32At_le_length hy
    exact ⟨by simp [Request.frame, h7], by simp [Request.frame]; omega⟩
  · obtain ⟨window, hwindow, rfl⟩ := h
    have := u64At_le_length hwindow
    exact ⟨by simp [Request.frame, h8], by simp [Request.frame]; omega⟩

/-- Requests with the same tag have frames of the same length. -/
theorem Request.frame_length_eq_of_head {r r' : Request} (h : r.frame.head? = r'.frame.head?) :
    r.frame.length = r'.frame.length := by
  cases r <;> cases r' <;>
    simp_all [Request.frame, tagCreateWindow, tagAttachBuffer, tagDamage, tagCommit, tagFill,
      tagSetVisible, tagMove, tagDestroyWindow]

theorem Request.frame_length_pos (r : Request) : 0 < r.frame.length := by
  cases r <;> simp [Request.frame]

/-- A strict prefix of a request's frame decodes to nothing. -/
theorem Request.decode_take_frame (r : Request) {k : Nat} (hk : k < r.frame.length) :
    Request.decode (r.frame.take k) = none := by
  rcases hd : Request.decode (r.frame.take k) with _ | r'
  · rfl
  · obtain ⟨hhead, hlen⟩ := Request.decode_some hd
    have hpos := r'.frame_length_pos
    rw [List.length_take] at hlen
    -- the prefix is not empty, so it starts with the frame's tag
    rw [List.head?_take, if_neg (by omega)] at hhead
    have hsame := Request.frame_length_eq_of_head hhead
    omega

theorem Request.frame_length_le (r : Request) : r.frame.length ≤ maxFrameSize := by
  cases r <;> simp [Request.frame, maxFrameSize, longestFixedFrame, longestVariableFrame, maxFormats]

/-! ## Events -/

/-- An event's frame: the tag, then the fields at their offsets. -/
def Event.frame : Event → List UInt8
  | .displayFormats width height formats =>
      tagDisplayFormats :: (leBytes width.toNat 4 ++ leBytes height.toNat 4 ++ formats.length.toUInt8 :: formats)
  | .windowCreated window => tagWindowCreated :: leBytes window.toNat 8
  | .frameDone window frame => tagFrameDone :: (leBytes window.toNat 8 ++ leBytes frame.toNat 8)
  | .bufferReleased window buffer => tagBufferReleased :: (leBytes window.toNat 8 ++ leBytes buffer.toNat 8)
  | .closed window => tagClosed :: leBytes window.toNat 8

/-- What `Event::encode` asks of the event itself: a `DisplayFormats` list of
at most `MAX_FORMATS`. -/
def Event.formatsFit : Event → Bool
  | .displayFormats _ _ formats => formats.length ≤ maxFormats
  | _ => true

/-- `Event::encode` stores the frame over the front of the buffer, or
returns `None` when the format list is too long or the buffer is shorter
than the frame. -/
theorem Event.encode_eq (e : Event) (buf : List UInt8) :
    e.encode buf = if e.formatsFit = false ∨ buf.length < e.frame.length then none
      else some (e.frame.length, e.frame ++ buf.drop e.frame.length) := by
  cases e
  case displayFormats width height formats =>
    simp only [Event.encode, Event.frame, Event.formatsFit, List.length_cons, List.length_append,
      leBytes_length, decide_eq_false_iff_not, Nat.not_le]
    by_cases hfit : formats.length > maxFormats
    · simp [hfit]
    by_cases hlen : buf.length < 1 + 4 + 4 + 1 + formats.length
    · rw [if_neg hfit, if_pos hlen, if_pos (.inr (by omega))]
    · rw [if_neg hfit, if_neg hlen, if_neg (by omega)]
      obtain ⟨b, rest, rfl⟩ := List.exists_cons_of_length_pos (show 0 < buf.length by omega)
      have h8 : 8 < rest.length := by simp at hlen; omega
      simp [copyAt_cons, copyAt_append_of_length_le, copyAt_zero, set_zero_drop h8]
      -- what is left is the frame's length, written two ways
      exact ⟨by omega, by omega⟩
  all_goals
    simp only [Event.encode, Event.encodeOne, Event.encodeTwo, Event.frame, Event.formatsFit,
      List.length_cons, List.length_append, leBytes_length, Nat.reduceAdd, Bool.true_eq_false, false_or]
    split_ifs with h
    · rfl
    · obtain ⟨b, rest, rfl⟩ := List.exists_cons_of_length_pos (show 0 < buf.length by omega)
      simp [copyAt_cons, copyAt_append_of_length_le, copyAt_zero]

/-- `Event::decode` reads an event's frame back, whatever follows it, when
its format list fits the count byte. -/
theorem Event.decode_frame_append (e : Event) (hfit : e.formatsFit = true) (rest : List UInt8) :
    Event.decode (e.frame ++ rest) = some e := by
  cases e
  case displayFormats width height formats =>
    -- the count byte holds the list's length
    have hcount : formats.length.toUInt8.toNat = formats.length := by
      have h16 : formats.length ≤ 16 := of_decide_eq_true hfit
      rw [Nat.toUInt8_eq, UInt8.toNat_ofNat']
      omega
    simp [Event.frame, Event.decode, u32At, getRange_cons, getRange_append_of_length_le,
      getRange_append_zero, List.getElem?_append_right, hcount, Nat.sub_add_comm, UInt32.ofNat_leValue_leBytes,
      tagDisplayFormats]
  all_goals
    simp [Event.frame, Event.decode, u64At, getRange_cons, getRange_append_of_length_le,
      getRange_append_zero, UInt64.ofNat_leValue_leBytes, tagDisplayFormats, tagWindowCreated,
      tagFrameDone, tagBufferReleased, tagClosed]

/-- An event that decodes has had its whole frame read: the buffer starts
with the event's tag and is at least as long as its frame, and for
`DisplayFormats` its count byte holds the list's length. -/
theorem Event.decode_some {buf : List UInt8} {e : Event} (h : Event.decode buf = some e) :
    buf.head? = e.frame.head? ∧ e.frame.length ≤ buf.length ∧
      ∀ width height formats, e = .displayFormats width height formats →
        (buf[9]?).map UInt8.toNat = some formats.length := by
  unfold Event.decode at h
  rcases hb : buf.head? with _ | tag
  · simp [hb] at h
  simp only [hb, Option.bind_eq_bind, Option.bind_some] at h
  -- one branch per tag; the last field read bounds the buffer's length
  split_ifs at h with h1 h2 h3 h4 h5 <;>
    simp only [Option.bind_eq_some_iff, Option.pure_def, Option.some.injEq] at h
  · obtain ⟨count, hcount, -, -, -, -, formats, hformats, rfl⟩ := h
    have hend := getRange_le_length hformats
    have hlen := getRange_length hformats
    refine ⟨by simp [Event.frame, h1], by simp [Event.frame]; omega, ?_⟩
    rintro width height formats' ⟨⟩
    simp [hcount, hlen]
  · obtain ⟨window, hwindow, rfl⟩ := h
    have := u64At_le_length hwindow
    exact ⟨by simp [Event.frame, h2], by simp [Event.frame]; omega, fun _ _ _ h => by cases h⟩
  · obtain ⟨-, -, frame, hframe, rfl⟩ := h
    have := u64At_le_length hframe
    exact ⟨by simp [Event.frame, h3], by simp [Event.frame]; omega, fun _ _ _ h => by cases h⟩
  · obtain ⟨-, -, buffer, hbuffer, rfl⟩ := h
    have := u64At_le_length hbuffer
    exact ⟨by simp [Event.frame, h4], by simp [Event.frame]; omega, fun _ _ _ h => by cases h⟩
  · obtain ⟨window, hwindow, rfl⟩ := h
    have := u64At_le_length hwindow
    exact ⟨by simp [Event.frame, h5], by simp [Event.frame]; omega, fun _ _ _ h => by cases h⟩

theorem Event.frame_length_pos (e : Event) : 0 < e.frame.length := by
  cases e <;> simp [Event.frame]

/-- A strict prefix of an event's frame decodes to nothing. -/
theorem Event.decode_take_frame (e : Event) (hfit : e.formatsFit = true) {k : Nat}
    (hk : k < e.frame.length) : Event.decode (e.frame.take k) = none := by
  rcases hd : Event.decode (e.frame.take k) with _ | e'
  · rfl
  · obtain ⟨hhead, hlen, hcount⟩ := Event.decode_some hd
    have hpos := e'.frame_length_pos
    rw [List.length_take] at hlen
    rw [List.head?_take, if_neg (by omega)] at hhead
    -- the tag fixes the frame's length, but for `DisplayFormats`, where the count byte does
    have hsame : e'.frame.length = e.frame.length := by
      cases e <;> cases e' <;>
        simp [Event.frame, tagDisplayFormats, tagWindowCreated, tagFrameDone, tagBufferReleased,
          tagClosed] at hhead ⊢
      next width height formats width' height' formats' =>
        have h16 : formats.length ≤ 16 := of_decide_eq_true hfit
        have h9 := hcount width' height' formats' rfl
        simp only [Event.frame, List.length_cons, List.length_append, leBytes_length] at hlen
        rw [List.getElem?_take_of_lt (by omega)] at h9
        simp [Event.frame, List.getElem?_append_right, Nat.toUInt8_eq, UInt8.toNat_ofNat'] at h9
        omega
    omega

theorem Event.frame_length_le (e : Event) (hfit : e.formatsFit = true) : e.frame.length ≤ maxFrameSize := by
  cases e
  case displayFormats width height formats =>
    have h16 : formats.length ≤ 16 := of_decide_eq_true hfit
    simp [Event.frame, maxFrameSize, longestFixedFrame, longestVariableFrame, maxFormats]
    omega
  all_goals simp [Event.frame, maxFrameSize, longestFixedFrame, longestVariableFrame, maxFormats]

/-! ## The frames `encode` returns -/

/-- What `encode` leaves in the buffer: the frame, then the old tail. -/
theorem take_frame_append (frame rest : List UInt8) {k : Nat} (hk : k ≤ frame.length) :
    (frame ++ rest).take k = frame.take k :=
  List.take_append_of_le_length hk

/-- Every successful `encode`, of a request or of an event, stores at most
`MAX_FRAME_SIZE` bytes, leaves the rest of the buffer as it was, and the
`n` bytes it reports decode to the message, while every shorter prefix of
them decodes to nothing. -/
theorem frames_round_trip :
    (∀ (r : Request) (buf buf' : List UInt8) (n : Nat), r.encode buf = some (n, buf') →
      Request.decode (buf'.take n) = some r ∧ n ≤ maxFrameSize ∧ buf'.drop n = buf.drop n ∧
        ∀ k < n, Request.decode (buf'.take k) = none) ∧
    (∀ (e : Event) (buf buf' : List UInt8) (n : Nat), e.encode buf = some (n, buf') →
      Event.decode (buf'.take n) = some e ∧ n ≤ maxFrameSize ∧ buf'.drop n = buf.drop n ∧
        ∀ k < n, Event.decode (buf'.take k) = none) := by
  constructor
  · intro r buf buf' n h
    rw [Request.encode_eq] at h
    split_ifs at h with hlen
    obtain ⟨rfl, rfl⟩ := Prod.mk.inj (Option.some.inj h)
    refine ⟨?_, r.frame_length_le, List.drop_left, fun k hk => ?_⟩
    · rw [take_frame_append _ _ le_rfl, List.take_length]
      simpa using r.decode_frame_append []
    · rw [take_frame_append _ _ hk.le]
      exact r.decode_take_frame hk
  · intro e buf buf' n h
    rw [Event.encode_eq] at h
    split_ifs at h with hlen
    obtain ⟨rfl, rfl⟩ := Prod.mk.inj (Option.some.inj h)
    have hfit : e.formatsFit = true := by simpa using (not_or.mp hlen).1
    refine ⟨?_, e.frame_length_le hfit, List.drop_left, fun k hk => ?_⟩
    · rw [take_frame_append _ _ le_rfl, List.take_length]
      simpa using e.decode_frame_append hfit []
    · rw [take_frame_append _ _ hk.le]
      exact e.decode_take_frame hfit hk

end PandaOs.CompositorProtocol
