import PracticeForge.Proofs.Basic
import PracticeForge.Judge.Drain

/-!
# Proofs/Judge/Drain — what the readers of a run keep, and when they ask for the kill

A reader keeps a chunk's bytes up to the room left under `maxOutputBytes`.  Kept bytes cut at
the cap and extended by what fits of the next chunk are the whole cut at the cap
(`extract_append_room`), so a reader that has read some bytes holds their first
`maxOutputBytes` and counts all of them (`Reader.Holds`), whatever the chunks were and however
its reads interleaved with the other pipe's (`run_holds`).

The overflow marks are shared.  A pass of either reader marks the overflow only when its total
has passed the kill limit and nothing is marked yet, so the marks and the kill requests say
exactly whether a total has passed it (`Drains.Marked`, kept by every pass: `Marked.read`).

The trace-level reading of a run (`capture`) keeps, of each stream, the first bytes of what
reached the reader (`capture_kept`, `runTrace_streams`), and these are what the two readers keep
when each write that wrote something comes as one chunk (`capture_eq_run`).

Main statement: `drains_keep_and_mark`.
-/

namespace PracticeForge

namespace Judge

/-! ## Cutting bytes at the cap -/

theorem extract_zero_of_size_le {a : ByteArray} {n : Nat} (h : a.size ≤ n) :
    a.extract 0 n = a :=
  ByteArray.ext (by
    rw [ByteArray.data_extract]
    exact Array.extract_eq_self_of_le (by rw [ByteArray.size_data]; exact h))

/-- Bytes no longer than `n`, followed by what fits of `c` under `n`, are the two cut at `n`. -/
theorem append_extract_of_size_le {a c : ByteArray} {n : Nat} (h : a.size ≤ n) :
    a ++ c.extract 0 (n - a.size) = (a ++ c).extract 0 n := by
  rw [ByteArray.extract_append, extract_zero_of_size_le h, Nat.zero_sub]

/-- **Cutting as one goes.**  Bytes cut at `n`, followed by what fits of `c` under `n`, are the
whole cut at `n`. -/
theorem extract_append_room (x c : ByteArray) (n : Nat) :
    x.extract 0 n ++ c.extract 0 (n - (x.extract 0 n).size) = (x ++ c).extract 0 n := by
  rw [append_extract_of_size_le (by simp [ByteArray.size_extract]), ByteArray.extract_append,
    ByteArray.extract_append, ByteArray.extract_extract]
  congr 2
  · simp
  · simp
  · -- cut bytes longer than `n` leave no room, as the whole does
    simp only [ByteArray.size_extract]
    omega

/-! ## One reader -/

namespace Reader

/-- A reader holds `bytes` when it kept their first `maxOutputBytes` and counted all of them. -/
def Holds (r : Reader) (bytes : ByteArray) : Prop :=
  r.kept = bytes.extract 0 maxOutputBytes ∧ r.total = bytes.size

/-- What a reader keeps of a chunk: the part that fits in the room left. -/
theorem kept_add (r : Reader) (chunk : ByteArray) :
    (r.add chunk).kept = r.kept ++ chunk.extract 0 (maxOutputBytes - r.kept.size) := by
  simp only [add]
  split
  · rfl
  · -- no room: nothing of the chunk fits
    rw [show maxOutputBytes - r.kept.size = 0 by omega, ByteArray.extract_same,
      ByteArray.append_empty]

theorem Holds.add {r : Reader} {bytes : ByteArray} (h : r.Holds bytes) (chunk : ByteArray) :
    (r.add chunk).Holds (bytes ++ chunk) := by
  refine ⟨?_, by simp [Reader.add, h.2, ByteArray.size_append]⟩
  rw [kept_add, h.1, extract_append_room]

theorem fresh_holds : Reader.fresh.Holds ByteArray.empty := ⟨rfl, rfl⟩

/-- The reader's own part of a pass over the chunk its read gave: an empty chunk ends it, any
other is added; a reader that has ended reads no more. -/
def step (r : Reader) (chunk : ByteArray) : Reader :=
  if r.ended then r else if chunk.size = 0 then { r with ended := true } else r.add chunk

/-- A reader alone, over the chunks of its pipe in order. -/
def feed (r : Reader) : List ByteArray → Reader
  | [] => r
  | c :: cs => (r.step c).feed cs

theorem feed_of_ended {r : Reader} (h : r.ended = true) : ∀ cs, r.feed cs = r
  | [] => rfl
  | _ :: cs => by simp only [feed, step, h, if_true]; exact feed_of_ended h cs

/-- A reader that has not ended and holds `bytes` holds, after the chunks `cs`, those bytes and
the chunks before the first empty one. -/
theorem Holds.feed {r : Reader} {bytes : ByteArray} (h : r.Holds bytes) (hr : r.ended = false) :
    ∀ cs, (r.feed cs).Holds ((cs.takeWhile (·.size != 0)).foldl (· ++ ·) bytes)
  | [] => h
  | c :: cs => by
    by_cases hc : c.size = 0
    · -- the end of the pipe: the reader stops with what it holds
      have hend : (r.step c).ended = true := by simp [step, hr, hc]
      simp only [Reader.feed, feed_of_ended hend, List.takeWhile_cons, hc, bne_self_eq_false,
        Bool.false_eq_true, if_false, List.foldl_nil]
      simpa [step, hr, hc, Holds] using h
    · have hstep : r.step c = r.add c := by simp [step, hr, hc]
      simp only [Reader.feed, hstep, List.takeWhile_cons]
      rw [if_pos (by simpa using hc)]
      exact (h.add c).feed (by simpa [Reader.add] using hr) cs

end Reader

/-! ## The readers side by side -/

namespace Drains

variable {d : Drains}

@[simp] theorem reader_setReader (d : Drains) (q p : Bool) (r : Reader) :
    (d.setReader q r).reader p = if q = p then r else d.reader p := by
  cases q <;> cases p <;> rfl

@[simp] theorem reader_check (d : Drains) (total : Nat) (p : Bool) :
    (d.check total).reader p = d.reader p := by
  unfold check
  split <;> rfl

/-- A pass of one reader changes that reader by its own step and leaves the other. -/
theorem reader_read (d : Drains) (q : Bool) (chunk : ByteArray) (p : Bool) :
    (d.read q chunk).reader p = if q = p then (d.reader p).step chunk else d.reader p := by
  unfold read
  by_cases hq : q = p
  · subst hq
    by_cases he : (d.reader q).ended = true
    · simp [he, Reader.step]
    · by_cases hc : chunk.size = 0 <;> simp [he, hc, Reader.step]
  · by_cases he : (d.reader q).ended = true
    · simp [he, hq]
    · by_cases hc : chunk.size = 0 <;> simp [he, hc, hq]

/-- Each reader, among the reads of a schedule, sees the chunks of its own pipe in order. -/
theorem reader_run (d : Drains) (p : Bool) :
    ∀ reads, (d.run reads).reader p = (d.reader p).feed ((reads.filter (·.1 == p)).map (·.2))
  | [] => rfl
  | (q, c) :: rest => by
    rw [run, reader_run _ p rest, reader_read]
    by_cases hq : q = p
    · simp [hq, Reader.feed]
    · simp [hq]

/-- The bytes the pipe (standard error when `p`) gave the reads of a schedule before its end. -/
def pipeBytes (reads : List (Bool × ByteArray)) (p : Bool) : ByteArray :=
  ((((reads.filter (·.1 == p)).map (·.2)).takeWhile (·.size != 0)).foldl (· ++ ·) ByteArray.empty)

/-- **Each reader keeps the first bytes of its pipe.**  After any interleaving of reads from the
start, each reader has kept the first `maxOutputBytes` of the bytes its pipe gave before its
end, and counted all of them. -/
theorem run_holds (reads : List (Bool × ByteArray)) (p : Bool) :
    ((start.run reads).reader p).Holds (pipeBytes reads p) := by
  rw [reader_run]
  have hfresh : (start.reader p).Holds ByteArray.empty := by cases p <;> exact Reader.fresh_holds
  exact hfresh.feed (by cases p <;> rfl) _

/-! ## The shared overflow marks -/

@[simp] theorem overflow_setReader (d : Drains) (q : Bool) (r : Reader) :
    (d.setReader q r).overflow = d.overflow := by
  cases q <;> rfl

@[simp] theorem kills_setReader (d : Drains) (q : Bool) (r : Reader) :
    (d.setReader q r).kills = d.kills := by
  cases q <;> rfl

@[simp] theorem reader_withMarks (d : Drains) (marks : List Bool) (kills : Nat) (p : Bool) :
    ({ d with overflow := marks, kills := kills } : Drains).reader p = d.reader p := by
  cases p <;> rfl

/-- What the shared marks say of the readers' totals: no mark and no kill request while every
total is within the kill limit; one mark and one request once a total has passed it. -/
def Marked (d : Drains) : Prop :=
  (d.overflow = [] ∧ d.kills = 0 ∧ ∀ p, (d.reader p).total ≤ overflowKillBytes) ∨
    (d.overflow = [true] ∧ d.kills = 1 ∧ ∃ p, overflowKillBytes < (d.reader p).total)

theorem marked_start : start.Marked := .inl ⟨rfl, rfl, fun p => by cases p <;> exact Nat.zero_le _⟩

/-- A reader replaced by one with the same total keeps the marks true. -/
theorem Marked.setReader_of_total {q : Bool} {r : Reader} (h : d.Marked)
    (ht : r.total = (d.reader q).total) : (d.setReader q r).Marked := by
  have htot : ∀ p, ((d.setReader q r).reader p).total = (d.reader p).total := by
    intro p
    rw [reader_setReader]
    split
    · subst_vars
      exact ht
    · rfl
  simpa only [Marked, htot, overflow_setReader, kills_setReader] using h

/-- A reader whose total grew, followed by the check of its new total, keeps the marks true. -/
theorem Marked.setReader_check {q : Bool} {r : Reader} (h : d.Marked)
    (hge : (d.reader q).total ≤ r.total) : ((d.setReader q r).check r.total).Marked := by
  have hle : ∀ p, (d.reader p).total ≤ ((d.setReader q r).reader p).total := by
    intro p
    rw [reader_setReader]
    split
    · subst_vars
      exact hge
    · exact le_rfl
  unfold check
  split
  case isTrue hpass =>
    -- the first total past the limit: nothing was marked, so no kill was asked for yet
    obtain ⟨hmore, hnone⟩ := hpass
    have hkills : d.kills = 0 := by
      rcases h with ⟨-, hk, -⟩ | ⟨hover, -, -⟩
      · exact hk
      · simp [hover] at hnone
    refine .inr ⟨by simpa using hnone, by simp [hkills], q, ?_⟩
    simpa using hmore
  case isFalse hquiet =>
    rcases h with ⟨hover, hkills, hall⟩ | ⟨hover, hkills, p, hp⟩
    · -- nothing marked, so the new total is within the limit too
      have hwithin : r.total ≤ overflowKillBytes := by
        by_contra hmore
        exact hquiet ⟨by omega, by simpa using hover⟩
      refine .inl ⟨by simpa using hover, by simpa using hkills, fun p => ?_⟩
      rw [reader_setReader]
      split
      · exact hwithin
      · exact hall p
    · exact .inr ⟨by simpa using hover, by simpa using hkills, p, lt_of_lt_of_le hp (hle p)⟩

/-- **One pass keeps the marks true.** -/
theorem Marked.read (h : d.Marked) (q : Bool) (chunk : ByteArray) : (d.read q chunk).Marked := by
  unfold Drains.read
  dsimp only
  by_cases he : (d.reader q).ended = true
  · rw [if_pos he]
    exact h
  rw [if_neg he]
  by_cases hc : chunk.size = 0
  · -- the end of the pipe: the reader stops with its total
    rw [if_pos hc]
    exact h.setReader_of_total rfl
  · rw [if_neg hc]
    exact h.setReader_check (by simp [Reader.add])

/-- **Every interleaving keeps the marks true.** -/
theorem Marked.run (h : d.Marked) (reads : List (Bool × ByteArray)) : (d.run reads).Marked := by
  induction reads generalizing d with
  | nil => exact h
  | cons qc rest ih =>
    obtain ⟨q, c⟩ := qc
    exact ih (h.read q c)

/-- Marked readers have an overflow mark exactly when one of their totals passed the limit. -/
theorem Marked.overflow_ne_nil_iff (h : d.Marked) :
    d.overflow ≠ [] ↔ ∃ p, overflowKillBytes < (d.reader p).total := by
  rcases h with ⟨hover, -, hall⟩ | ⟨hover, -, hp⟩
  · simp only [hover, ne_eq, not_true_eq_false, false_iff, not_exists, not_lt]
    exact hall
  · simpa [hover] using hp

/-- Marked readers asked for the kill once per mark, so at most once. -/
theorem Marked.kills_eq_length (h : d.Marked) : d.kills = d.overflow.length ∧ d.kills ≤ 1 := by
  rcases h with ⟨hover, hkills, -⟩ | ⟨hover, hkills, -⟩ <;> simp [hover, hkills]

end Drains

/-! ## What the trace-level reading keeps

`capture` reads whole writes, a write possibly endless.  The bytes it keeps of a stream are the
first `maxOutputBytes` of the writes that reached the reader, one after another: an endless
write counts as many repetitions of its unit as are needed to fill them. -/

/-- The bytes of a write, an endless one cut after `n` repetitions of its unit: as many as the
first `n` bytes of any stream it is part of need. -/
def Write.bytesUpTo (w : Write) (n : Nat) : ByteArray :=
  ⟨(Array.replicate (w.times.getD n) w.unit.data).flatten⟩

/-- The first `n` bytes of what the writes `ws` wrote, one after another. -/
def firstBytes (ws : List Write) (n : Nat) : ByteArray :=
  (ws.foldl (fun acc w => acc ++ w.bytesUpTo n) ByteArray.empty).extract 0 n

/-- Copies of one list agree on their first `m` elements when both have at least `m`. -/
theorem take_flatten_replicate (l : List UInt8) {a b m : Nat} (ha : m ≤ a * l.length)
    (hb : m ≤ b * l.length) :
    ((List.replicate a l).flatten).take m = ((List.replicate b l).flatten).take m := by
  -- the fewer copies are a prefix of the more, and already hold the first `m`
  have hfewer : ∀ {a b : Nat}, a ≤ b → m ≤ a * l.length →
      ((List.replicate b l).flatten).take m = ((List.replicate a l).flatten).take m := by
    intro a b hab ha
    obtain ⟨c, rfl⟩ := Nat.exists_eq_add_of_le hab
    rw [List.replicate_add, List.flatten_append, List.take_append_of_le_length (by simpa using ha)]
  rcases le_total a b with hab | hba
  · exact (hfewer hab ha).symm
  · exact hfewer hba hb

/-- Repeating a write's unit for the first `m ≤ n` bytes gives those of `bytesUpTo n`. -/
theorem repeatPrefix_eq (w : Write) {m n : Nat} (hmn : m ≤ n) :
    repeatPrefix w.unit w.times m = (w.bytesUpTo n).extract 0 m := by
  unfold repeatPrefix Write.bytesUpTo
  split
  case isTrue hempty =>
    -- an empty unit writes nothing, however often
    have hdata : w.unit.data = #[] := Array.eq_empty_of_size_eq_zero (by simpa using hempty)
    rw [hdata, Array.flatten_replicate_empty]
    exact (extract_zero_of_size_le (Nat.zero_le m)).symm
  case isFalse hsize =>
    have hpos : 0 < w.unit.size := by
      simp only [beq_iff_eq] at hsize
      omega
    -- enough whole units to cover `m` bytes
    have hcover : m ≤ (m / w.unit.size + 1) * w.unit.size := by
      have := Nat.lt_mul_div_succ m hpos
      rw [Nat.mul_comm] at this
      omega
    have hlen : w.unit.data.toList.length = w.unit.size := by simp
    apply ByteArray.ext
    simp only [ByteArray.data_extract]
    apply Array.ext'
    simp only [Array.toList_extract, List.extract_eq_take_drop, List.drop_zero, Nat.sub_zero,
      Array.toList_flatten, Array.toList_replicate, List.map_replicate]
    cases ht : w.times with
    | some k =>
      simp only [Option.getD_some]
      by_cases hk : k ≤ m / w.unit.size + 1
      · rw [show Nat.min k (m / w.unit.size + 1) = k from Nat.min_eq_left hk]
      · rw [show Nat.min k (m / w.unit.size + 1) = m / w.unit.size + 1 from
          Nat.min_eq_right (by omega)]
        refine take_flatten_replicate _ (by rwa [hlen]) ?_
        rw [hlen]
        exact le_trans hcover (Nat.mul_le_mul_right _ (by omega))
    | none =>
      simp only [Option.getD_none]
      refine take_flatten_replicate _ (by rwa [hlen]) ?_
      rw [hlen]
      exact le_trans hmn (Nat.le_mul_of_pos_right n hpos)

/-- What `capture` keeps of a write: the part of its bytes that fits in the room left. -/
theorem keep_eq_append {acc : ByteArray} (h : acc.size ≤ maxOutputBytes) (w : Write) :
    keep acc w = acc ++ (w.bytesUpTo maxOutputBytes).extract 0 (maxOutputBytes - acc.size) := by
  unfold keep
  split
  · -- no room: nothing of the write fits
    rw [show maxOutputBytes - acc.size = 0 by omega, ByteArray.extract_same, ByteArray.append_empty]
  · rw [repeatPrefix_eq w (Nat.sub_le _ _)]

/-- Keeping the selected writes one after another keeps the first `maxOutputBytes` of their
bytes. -/
theorem foldl_keep (sel : Write → Bool) {f : ByteArray → Write → ByteArray}
    (hf : ∀ acc w, f acc w = if sel w then keep acc w else acc) :
    ∀ (ws : List Write) (x : ByteArray),
      ws.foldl f (x.extract 0 maxOutputBytes) =
        ((ws.filter sel).foldl (fun acc w => acc ++ w.bytesUpTo maxOutputBytes) x).extract 0
          maxOutputBytes
  | [], _ => rfl
  | w :: ws, x => by
    rw [List.foldl_cons, hf]
    by_cases hw : sel w = true
    · rw [if_pos hw, keep_eq_append (by simp [ByteArray.size_extract]), extract_append_room,
        List.filter_cons_of_pos hw, List.foldl_cons]
      exact foldl_keep sel hf ws _
    · rw [if_neg hw, List.filter_cons_of_neg hw]
      exact foldl_keep sel hf ws x

theorem empty_extract (n : Nat) : ByteArray.empty.extract 0 n = ByteArray.empty :=
  extract_zero_of_size_le (Nat.zero_le n)

/-- What `capture` keeps of each stream: the first `maxOutputBytes` of what reached the
reader. -/
theorem capture_kept (tr : Trace) (t : Option Rat) :
    (capture tr t).1 = firstBytes ((tr.delivered (tr.inOrder t)).filter fun w => !w.toErr)
      maxOutputBytes ∧
    (capture tr t).2.1 = firstBytes ((tr.delivered (tr.inOrder t)).filter fun w => w.toErr)
      maxOutputBytes := by
  have hout := foldl_keep (fun w => !w.toErr) (f := fun acc w => if w.toErr then acc else keep acc w)
    (fun acc w => by cases w.toErr <;> rfl) (tr.delivered (tr.inOrder t)) ByteArray.empty
  have herr := foldl_keep (fun w => w.toErr) (f := fun acc w => if w.toErr then keep acc w else acc)
    (fun _ _ => rfl) (tr.delivered (tr.inOrder t)) ByteArray.empty
  rw [empty_extract] at hout herr
  exact ⟨hout, herr⟩

/-- **A run's texts are its streams' first bytes.**  The standard output and error of a run are
the first `maxOutputBytes` of what reached the reader of each stream, read as UTF-8 with
replacement and without colour codes. -/
theorem runTrace_streams (tr : Trace) (timeout : Binary64) :
    (runTrace tr timeout).stdout = readStream (firstBytes
      ((tr.delivered (tr.inOrder (secondsOf timeout))).filter fun w => !w.toErr) maxOutputBytes) ∧
    (runTrace tr timeout).stderr = readStream (firstBytes
      ((tr.delivered (tr.inOrder (secondsOf timeout))).filter fun w => w.toErr) maxOutputBytes) :=
  (capture_kept tr (secondsOf timeout)).imp (congrArg readStream) (congrArg readStream)

/-- Writes of no bytes add nothing to what is written. -/
theorem foldl_append_filter_size (g : Write → ByteArray) :
    ∀ (ws : List Write) (x : ByteArray),
      (ws.filter fun w => (g w).size != 0).foldl (fun acc w => acc ++ g w) x =
        ws.foldl (fun acc w => acc ++ g w) x
  | [], _ => rfl
  | w :: ws, x => by
    by_cases hw : (g w).size = 0
    · have hempty : g w = ByteArray.empty := ByteArray.ext (Array.eq_empty_of_size_eq_zero (by simpa using hw))
      rw [List.filter_cons_of_neg (by simpa using hw), List.foldl_cons, hempty,
        ByteArray.append_empty]
      exact foldl_append_filter_size g ws x
    · rw [List.filter_cons_of_pos (by simpa using hw), List.foldl_cons, List.foldl_cons]
      exact foldl_append_filter_size g ws _

/-- **The loop and the trace-level reading agree.**  Reading the writes that reached the reader
whole, one chunk for each write that wrote something, the two readers keep what `capture`
keeps of each stream. -/
theorem capture_eq_run (tr : Trace) (t : Option Rat) :
    let reads := ((tr.delivered (tr.inOrder t)).filter fun w =>
      (w.bytesUpTo maxOutputBytes).size != 0).map fun w => (w.toErr, w.bytesUpTo maxOutputBytes)
    (capture tr t).1 = ((Drains.start.run reads).reader false).kept ∧
      (capture tr t).2.1 = ((Drains.start.run reads).reader true).kept := by
  intro reads
  -- each pipe's chunks are its writes' bytes, none of them empty, so none is taken for the end
  have hpipe : ∀ p, Drains.pipeBytes reads p =
      ((tr.delivered (tr.inOrder t)).filter fun w => w.toErr == p).foldl
        (fun acc w => acc ++ w.bytesUpTo maxOutputBytes) ByteArray.empty := by
    intro p
    have hall : ∀ c ∈ (((reads.filter (·.1 == p)).map (·.2))), (c.size != 0) = true := by
      intro c hc
      simp only [reads, List.filter_map, List.map_map, List.mem_map, List.mem_filter] at hc
      obtain ⟨w, ⟨⟨-, hw⟩, -⟩, rfl⟩ := hc
      exact hw
    rw [Drains.pipeBytes, List.takeWhile_eq_self_iff.2 hall]
    rw [← foldl_append_filter_size (fun w => w.bytesUpTo maxOutputBytes)]
    simp only [reads, List.filter_map, List.map_map, List.foldl_map, List.filter_filter,
      Function.comp_apply, Bool.and_comm]
  obtain ⟨hout, herr⟩ := capture_kept tr t
  refine ⟨?_, ?_⟩
  · rw [hout, (Drains.run_holds reads false).1, hpipe]
    simp [firstBytes]
  · rw [herr, (Drains.run_holds reads true).1, hpipe]
    simp [firstBytes]

/-! ## The readers of a run -/

/-- **The readers keep the first bytes and ask for the kill at most once.**  For any chunks,
and any interleaving of the two readers' reads from the start: each reader has counted all the
bytes its pipe gave before its end and kept the first `min total maxOutputBytes` of them; the
shared list of marks is not empty exactly when a reader's total has passed the kill limit, and
the kill was asked for once per mark, so at most once in all.  A run's standard output and
error are therefore the first `maxOutputBytes` of what reached the reader of each stream, read
as UTF-8 with replacement and without colour codes. -/
theorem drains_keep_and_mark :
    (∀ reads p, let r := (Drains.start.run reads).reader p
      r.total = (Drains.pipeBytes reads p).size ∧
      r.kept = (Drains.pipeBytes reads p).extract 0 maxOutputBytes ∧
      r.kept.size = min r.total maxOutputBytes) ∧
    (∀ reads, let d := Drains.start.run reads
      (d.overflow ≠ [] ↔ ∃ p, overflowKillBytes < (d.reader p).total) ∧
      d.kills = d.overflow.length ∧ d.kills ≤ 1) ∧
    (∀ tr timeout, let delivered := tr.delivered (tr.inOrder (secondsOf timeout))
      (runTrace tr timeout).stdout =
          readStream (firstBytes (delivered.filter fun w => !w.toErr) maxOutputBytes) ∧
        (runTrace tr timeout).stderr =
          readStream (firstBytes (delivered.filter fun w => w.toErr) maxOutputBytes)) := by
  refine ⟨fun reads p => ?_, fun reads => ?_, runTrace_streams⟩
  · obtain ⟨hkept, htotal⟩ := Drains.run_holds reads p
    refine ⟨htotal, hkept, ?_⟩
    rw [hkept, htotal, ByteArray.size_extract, Nat.sub_zero, Nat.min_comm]
  · have hmarked := Drains.marked_start.run reads
    exact ⟨hmarked.overflow_ne_nil_iff, hmarked.kills_eq_length⟩

end Judge

end PracticeForge
