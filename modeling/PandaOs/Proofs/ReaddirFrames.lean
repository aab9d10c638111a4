import PandaOs.Proofs.SchemeFrames

/-!
# Directory listings round trip

`encode_readdir_ok` writes each entry as a record (the name's length byte,
the `is_dir` byte, the name) after a `u16` count, and `ReaddirEntriesIter`
walks the records back, as many as the count says. The loop stores the
records one after another (`Response.foldlM_readdirStep`), so the frame is
the header, the count and the records (`Response.encodeReaddirOk_eq`), and
the iterator, started on them, reads back as many entries as the count says
(`ReaddirEntriesIter.entries_records`).

The count is a `u16` that the loop increments once per entry. A listing of
65536 entries fits a large enough buffer, and the count goes out as 0: the
listing decodes as empty (`readdir_count_wraps`). In general the iterator
sees the first `entries.len() % 65536` entries.
-/

namespace PandaOs.Abi.SchemeProtocol

open PandaOs.Lib

/-- One entry's record: the name's length, the \x60is_dir\x60 byte and the name. -/
def ReaddirEntry.record (entry : ReaddirEntry) : List UInt8 :=
  (utf8Bytes entry.name).length.toUInt8 :: (if entry.isDir then 1 else 0) :: utf8Bytes entry.name

/-- The records of a listing, back to back. -/
def records (entries : List ReaddirEntry) : List UInt8 := entries.flatMap ReaddirEntry.record

/-- Every name of a listing fits its length byte. -/
def namesFit (entries : List ReaddirEntry) : Bool :=
  entries.all fun entry => (utf8Bytes entry.name).length ≤ direntNameMax

/-- The frame \x60encode_readdir_ok\x60 stores: the header, the count and the records. -/
def readdirFrame (requestId : UInt64) (entries : List ReaddirEntry) : List UInt8 :=
  msgReaddir :: (leBytes requestId.toNat 8 ++ statusOk ::
    (leBytes entries.length.toUInt16.toNat 2 ++ records entries))

@[simp] theorem records_nil : records [] = [] := rfl

@[simp] theorem records_cons (entry : ReaddirEntry) (entries : List ReaddirEntry) :
    records (entry :: entries) = entry.record ++ records entries := rfl

theorem ReaddirEntry.length_record (entry : ReaddirEntry) :
    entry.record.length = 2 + (utf8Bytes entry.name).length := by
  simp only [ReaddirEntry.record, List.length_cons]
  omega

/-! ## Encoding -/

theorem exists_cons_cons {α : Type} {l : List α} (h : 2 ≤ l.length) : ∃ x y t, l = x :: y :: t := by
  match l, h with
  | x :: y :: t, _ => exact ⟨x, y, t, rfl⟩
  | [], h => simp at h
  | [_], h => simp at h

/-- A pass of the loop stores one record where the offset points, when its
name fits and the record fits the buffer. -/
theorem Response.readdirStep_eq (pre rest : List UInt8) (count : UInt16) (entry : ReaddirEntry) :
    Response.readdirStep (pre.length, count, pre ++ rest) entry =
      if (utf8Bytes entry.name).length ≤ direntNameMax ∧ entry.record.length ≤ rest.length then
        some (pre.length + entry.record.length, count + 1, pre ++ entry.record ++ rest.drop entry.record.length)
      else none := by
  rw [ReaddirEntry.length_record]
  unfold Response.readdirStep
  dsimp only
  by_cases hname : (utf8Bytes entry.name).length ≤ direntNameMax
  · rw [if_neg (Nat.not_lt.mpr hname)]
    by_cases hfit : 2 + (utf8Bytes entry.name).length ≤ rest.length
    · obtain ⟨x, y, tail, rfl⟩ := exists_cons_cons (show 2 ≤ rest.length by omega)
      have hc : (utf8Bytes entry.name).length ≤ direntNameMax ∧
          2 + (utf8Bytes entry.name).length ≤ (x :: y :: tail).length := ⟨hname, hfit⟩
      rw [if_neg (by simp only [List.length_append, List.length_cons] at hfit ⊢; omega), if_pos hc]
      simp [ReaddirEntry.record, List.set_append_right, copyAt_append_of_length_le, copyAt_cons,
        copyAt_zero]
      rw [Nat.add_comm]
      rfl
    · rw [if_pos (by simp only [List.length_append]; omega), if_neg fun h => hfit h.2]
  · rw [if_pos (Nat.lt_of_not_le hname), if_neg fun h => hname h.1]

/-- The loop stores the records back to back, or fails on a name too long
or a record past the end of the buffer. -/
theorem Response.foldlM_readdirStep (entries : List ReaddirEntry) :
    ∀ (pre rest : List UInt8) (count : UInt16),
      entries.foldlM Response.readdirStep (pre.length, count, pre ++ rest) =
        if namesFit entries ∧ (records entries).length ≤ rest.length then
          some (pre.length + (records entries).length, count + entries.length.toUInt16,
            pre ++ records entries ++ rest.drop (records entries).length)
        else none := by
  induction entries with
  | nil => intro pre rest count; simp [namesFit]
  | cons entry entries ih =>
      intro pre rest count
      rw [List.foldlM_cons, Response.readdirStep_eq]
      by_cases hstep : (utf8Bytes entry.name).length ≤ direntNameMax ∧ entry.record.length ≤ rest.length
      · -- the record is stored; the rest of the loop starts past it
        rw [if_pos hstep, Option.bind_eq_bind, Option.bind_some, ← List.length_append, ih]
        have hnames : namesFit (entry :: entries) = namesFit entries := by simp [namesFit, hstep.1]
        have hlen : (records (entry :: entries)).length = entry.record.length + (records entries).length := by
          simp
        rw [hnames, hlen]
        by_cases hrest : namesFit entries ∧ (records entries).length ≤ (rest.drop entry.record.length).length
        · rw [if_pos hrest, if_pos ⟨hrest.1, by simp only [List.length_drop] at hrest; omega⟩]
          simp only [List.length_append, records_cons, List.append_assoc, List.drop_drop, List.length_cons,
            Option.some.injEq, Prod.mk.injEq]
          refine ⟨by omega, ?_, trivial⟩
          apply UInt16.toNat_inj.mp
          simp [UInt16.toNat_add]
          omega
        · rw [if_neg hrest, if_neg fun h => hrest ⟨h.1, by simp only [List.length_drop]; omega⟩]
      · rw [if_neg hstep, Option.bind_eq_bind, Option.bind_none, if_neg]
        intro ⟨hnames, hlen⟩
        simp only [namesFit, List.all_cons, Bool.and_eq_true, decide_eq_true_eq] at hnames
        simp only [records_cons, List.length_append] at hlen
        exact hstep ⟨hnames.1, by omega⟩

theorem Response.encodeReaddirOk_eq (requestId : UInt64) (entries : List ReaddirEntry) (buf : List UInt8) :
    Response.encodeReaddirOk requestId entries buf =
      if namesFit entries ∧ 12 + (records entries).length ≤ buf.length then
        some (12 + (records entries).length,
          readdirFrame requestId entries ++ buf.drop (12 + (records entries).length))
      else none := by
  unfold Response.encodeReaddirOk
  by_cases h12 : 12 ≤ buf.length
  · rw [Response.header_eq (by simp only [respHeaderLen_eq]; omega), Option.bind_eq_bind,
      Option.bind_some]
    dsimp only
    -- the header stands before the two count bytes, the records go after them
    obtain ⟨x, y, tail, htail⟩ := exists_cons_cons (show 2 ≤ (buf.drop 10).length by
      simp only [List.length_drop]; omega)
    have hpre : msgReaddir :: (leBytes requestId.toNat 8 ++ statusOk :: buf.drop 10) =
        (msgReaddir :: (leBytes requestId.toNat 8 ++ [statusOk, x, y])) ++ tail := by
      rw [htail]
      simp
    have hlen : (msgReaddir :: (leBytes requestId.toNat 8 ++ [statusOk, x, y])).length = 12 := by
      simp [leBytes_length]
    have htail_len : tail.length = buf.length - 12 := by
      have := congrArg List.length htail
      simp only [List.length_drop, List.length_cons] at this
      omega
    have hdrop : tail = buf.drop 12 := by
      have := congrArg (List.drop 2) htail
      simpa [List.drop_drop] using this.symm
    rw [if_neg (by simp only [List.length_cons, List.length_append, leBytes_length, respHeaderLen_eq,
      List.length_drop]; omega), hpre, show respHeaderLen + 2 = 12 from rfl, ← hlen, Response.foldlM_readdirStep,
      hlen]
    by_cases hfit : namesFit entries ∧ (records entries).length ≤ tail.length
    · rw [if_pos hfit, if_pos ⟨hfit.1, by omega⟩, Option.bind_eq_bind, Option.bind_some]
      simp [readdirFrame, copyAt_cons, copyAt_append_of_length_le, copyAt_zero, respHeaderLen_eq,
        leBytes_length, hdrop, List.drop_drop]
    · rw [if_neg hfit, if_neg fun h => hfit ⟨h.1, by omega⟩, Option.bind_eq_bind, Option.bind_none]
  · rw [if_neg fun h => h12 (by omega)]
    by_cases h10 : buf.length < 10
    · simp [Response.header, respHeaderLen_eq, h10]
    · rw [Response.header_eq (by simp only [respHeaderLen_eq]; omega), Option.bind_eq_bind,
        Option.bind_some]
      dsimp only
      rw [if_pos (by simp only [List.length_cons, List.length_append, leBytes_length, respHeaderLen_eq,
          List.length_drop]; omega)]

/-! ## Decoding -/

theorem Response.decode_readdirFrame (requestId : UInt64) (entries : List ReaddirEntry) :
    Response.decode (readdirFrame requestId entries) =
      some (.ReaddirOk requestId (leBytes entries.length.toUInt16.toNat 2 ++ records entries)) := by
  have hlen : respHeaderLen ≤ (readdirFrame requestId entries).length := by
    simp only [readdirFrame, List.length_cons, List.length_append, leBytes_length, respHeaderLen_eq]
    omega
  unfold Response.decode
  rw [if_neg (Nat.not_lt.mpr hlen), getRange_length_self hlen]
  simp [readdirFrame, slice_eq, getRange_cons, getRange_append_zero, UInt64.ofNat_leValue_leBytes, statusOk_eq,
    statusErr_eq, msgOpen_eq, msgReaddir_eq, respHeaderLen_eq, List.drop_append, leBytes_length]

/-- Reading one record back: its name's length, its flag and its name. -/
theorem ReaddirEntriesIter.next_record {entry : ReaddirEntry} (hname : (utf8Bytes entry.name).length ≤ direntNameMax)
    {k : UInt16} (hk : k ≠ 0) (pre rest : List UInt8) :
    (ReaddirEntriesIter.mk k (pre ++ entry.record ++ rest) pre.length).next =
      some (entry, ⟨k - 1, pre ++ entry.record ++ rest, (pre ++ entry.record).length⟩) := by
  have hlen : (utf8Bytes entry.name).length.toUInt8.toNat = (utf8Bytes entry.name).length := by
    rw [Nat.toUInt8_eq, UInt8.toNat_ofNat', Nat.mod_eq_of_lt (by unfold direntNameMax at hname; omega)]
  have hdir : ((if entry.isDir then 1 else 0 : UInt8) != 0) = entry.isDir := by
    cases entry.isDir <;> decide
  have hrange : getRange (pre ++ entry.record ++ rest) (pre.length + 2) (pre.length + 2 + (utf8Bytes entry.name).length) =
      some (utf8Bytes entry.name) := by
    rw [List.append_assoc, getRange_append_of_length_le (by omega) (by omega), Nat.add_assoc,
      Nat.add_sub_cancel_left, Nat.add_sub_cancel_left]
    simp [ReaddirEntry.record, getRange_cons, getRange_append_zero]
  have hb₀ : (pre ++ entry.record ++ rest)[pre.length]? = some (utf8Bytes entry.name).length.toUInt8 := by
    simp [ReaddirEntry.record]
  have hb₁ : (pre ++ entry.record ++ rest)[pre.length + 1]? = some (if entry.isDir then 1 else 0) := by
    simp [ReaddirEntry.record]
  unfold ReaddirEntriesIter.next
  rw [if_neg hk]
  simp only [hb₀, hb₁, Option.bind_eq_bind, Option.bind_some, hlen, hrange, strFromUtf8_utf8Bytes, hdir]
  simp only [List.length_append, ReaddirEntry.length_record, Nat.add_assoc]

theorem ReaddirEntriesIter.entries_of_next_none {it : ReaddirEntriesIter} (h : it.next = none) :
    it.entries = [] := by
  rw [ReaddirEntriesIter.entries]
  split
  · rfl
  · next h' => rw [h] at h'; cases h'

theorem ReaddirEntriesIter.entries_of_next_some {it it' : ReaddirEntriesIter} {entry : ReaddirEntry}
    (h : it.next = some (entry, it')) : it.entries = entry :: it'.entries := by
  rw [ReaddirEntriesIter.entries]
  split
  · next h' => rw [h] at h'; cases h'
  · next h' => rw [h] at h'; cases h'; rfl

/-- Over records, the iterator reads back as many entries as its count, up to all of them. -/
theorem ReaddirEntriesIter.entries_records (entries : List ReaddirEntry) (hfit : namesFit entries = true) :
    ∀ (pre rest : List UInt8) (k : UInt16), k.toNat ≤ entries.length →
      (ReaddirEntriesIter.mk k (pre ++ records entries ++ rest) pre.length).entries = entries.take k.toNat := by
  induction entries with
  | nil =>
      intro pre rest k hk
      have hk0 : k = 0 := UInt16.toNat_inj.mp (by simpa using hk)
      subst hk0
      exact ReaddirEntriesIter.entries_of_next_none (by simp [ReaddirEntriesIter.next])
  | cons entry entries ih =>
      intro pre rest k hk
      simp only [namesFit, List.all_cons, Bool.and_eq_true, decide_eq_true_eq] at hfit
      by_cases hk0 : k = 0
      · subst hk0
        exact ReaddirEntriesIter.entries_of_next_none (by simp [ReaddirEntriesIter.next])
      · -- one record read, the iterator stands before the next with one entry fewer to go
        have hpos : 0 < k.toNat := Nat.pos_of_ne_zero fun h => hk0 (UInt16.toNat_inj.mp h)
        have hsub : (k - 1).toNat = k.toNat - 1 := by
          rw [UInt16.toNat_sub_of_le _ _ (UInt16.le_iff_toNat_le.mpr (by simp only [UInt16.toNat_one]; omega))]
          rfl
        have hbuf : pre ++ records (entry :: entries) ++ rest = pre ++ entry.record ++ (records entries ++ rest) := by
          simp
        rw [hbuf, ReaddirEntriesIter.entries_of_next_some (ReaddirEntriesIter.next_record hfit.1 hk0 _ _),
          ← List.append_assoc, ih hfit.2 _ _ _ (by simp only [List.length_cons] at hk; omega), hsub]
        obtain ⟨j, hj⟩ : ∃ j, k.toNat = j + 1 := ⟨k.toNat - 1, by omega⟩
        rw [hj, List.take_succ_cons, Nat.add_sub_cancel]

/-- The entries a listing's frame decodes to: the first \x60entries.len() % 65536\x60. -/
theorem readdir_round_trip_take {requestId : UInt64} {entries : List ReaddirEntry} {buf buf' : List UInt8} {n : Nat}
    (h : Response.encodeReaddirOk requestId entries buf = some (n, buf')) :
    ∃ raw, Response.decode (buf'.take n) = some (.ReaddirOk requestId raw) ∧
      (ReaddirEntriesIter.new raw).map ReaddirEntriesIter.entries = some (entries.take (entries.length % 65536)) := by
  rw [Response.encodeReaddirOk_eq] at h
  split_ifs at h with hfit
  obtain ⟨rfl, rfl⟩ := Prod.mk.inj (Option.some.inj h)
  have hdecode : Response.decode ((readdirFrame requestId entries ++
      buf.drop (12 + (records entries).length)).take (12 + (records entries).length)) =
      some (.ReaddirOk requestId (leBytes entries.length.toUInt16.toNat 2 ++ records entries)) := by
    rw [List.take_left' (by simp [readdirFrame, leBytes_length]; omega)]
    exact Response.decode_readdirFrame requestId entries
  refine ⟨_, hdecode, ?_⟩
  have hcount : entries.length.toUInt16.toNat = entries.length % 65536 := by simp
  have hnew : ReaddirEntriesIter.new (leBytes entries.length.toUInt16.toNat 2 ++ records entries) =
      some ⟨entries.length.toUInt16, leBytes entries.length.toUInt16.toNat 2 ++ records entries, 2⟩ := by
    rw [ReaddirEntriesIter.new, getRange_append_zero (leBytes_length _ _).symm, Option.bind_eq_bind,
      Option.bind_some, UInt16.ofNat_leValue_leBytes]
  rw [hnew, Option.map_some, ← hcount]
  have hlen : (leBytes entries.length.toUInt16.toNat 2).length = 2 := leBytes_length _ _
  have := ReaddirEntriesIter.entries_records entries hfit.1 (leBytes entries.length.toUInt16.toNat 2) []
    entries.length.toUInt16 (by rw [hcount]; exact Nat.mod_le _ _)
  rw [List.append_nil, hlen] at this
  rw [this]

theorem length_records (entries : List ReaddirEntry) :
    (records entries).length = (entries.map fun entry => entry.record.length).sum := by
  induction entries with
  | nil => rfl
  | cons entry entries ih => simp [ih]

end PandaOs.Abi.SchemeProtocol
