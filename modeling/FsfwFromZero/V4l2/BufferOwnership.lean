import FsfwFromZero.V4l2.FrameBounds
import FsfwFromZero.V4l2.ResourceBalance

/-!
# Who holds a frame buffer

A frame buffer belongs to the driver from `VIDIOC_QBUF` to `VIDIOC_DQBUF`, and to the program in
between.  `takeSnapshot` indexes its table with the number the driver names, without a test, and
reads as many bytes as the driver says there are; whether the entry is there, is mapped and is long
enough rests on how start-up filled the table.

* `heldByDriver` — the buffers the driver holds after a list of system calls, `driverDelivers` — a
  driver hands out only buffers that it holds, with no more bytes than it gave them room;
* `framePositions` — the positions of a buffer that `takeSnapshot` reads;
* `startupWebcam_cases` — **inversion of start-up**, `mapBuffers_held` — the buffers that the
  mapping loop hands over are those it mapped;
* `Custody` / `custody_run` — **the run invariant**: what the driver holds is mapped, in the table,
  and of the length the driver was told;
* `snapshot_reads_its_mapping` — **every snapshot reads a live mapping of this session**;
* `driver_gets_buffers_back` — **the account of the buffers**: between the calls of a started session
  the driver holds all of them but those that a snapshot did not give back.
-/

namespace FsfwFromZero

open Lib

namespace V4l2

/-! ### The driver's side -/

/-- What a system call does to the buffers the driver holds.  It takes a buffer that it accepts and
does not hold already; a descriptor that is closed takes its buffers with it. -/
def handOver (held : List UInt32) : SystemCall → List UInt32
  | .opened _ => []
  | .closed _ => []
  | .queued index accepted => if accepted ∧ index ∉ held then held ++ [index] else held
  | .dequeued index => held.erase index
  | .mapped _ _ => held
  | .unmapped _ _ => held

/-- The buffers the driver holds after these calls, in the order in which it got them. -/
def heldByDriver (calls : List SystemCall) : List UInt32 := calls.foldl handOver []

/-- A buffer that the driver hands out is one it holds, and has no more valid bytes than the driver
said the buffer was long. -/
def driverDelivers (hist : List CamEvent) (cam : Webcam) : CamStep → Prop
  | .startup _ _ => True
  | .takeSnapshot answers =>
      0 ≤ cam.fd → ∀ index bytesused, answers.dequeue = some (index, bytesused) →
        index ∈ heldByDriver (callsSince hist) ∧
        ∀ args startup, lastStartup (hist.map Event.input) = some (args, startup) →
          ∀ length, (startup.buffer index.toNat).queryBuf = some length → bytesused.toNat ≤ length
  | .shutdown => True

/-- The positions of the dequeued buffer that are read: the valid bytes of a JPEG that is written to
a file, and what the conversion reads of a YUYV frame. -/
def framePositions (conv : ColourFunction) (fmt : PixFormat) (answers : SnapshotAnswers)
    (bytesused : UInt32) : List Nat :=
  if fmt.pixelformat = pixFmtMjpeg ∨ fmt.pixelformat = pixFmtJpeg then
    if answers.fopen then List.range bytesused.toNat else []
  else if fmt.pixelformat = pixFmtYuyv then
    match convertFrame conv answers.frame (asInt fmt.width) (asInt fmt.height) with
    | .converted _ conversion => conversion.reads
    | .overflow => []
    | .lengthError => []
  else []

/-! ### What start-up hands over -/

theorem resize_length (bufs : List Buffer) (count : Nat) : (resize bufs count).length = count := by
  rw [resize, List.length_append, List.length_take, List.length_replicate]
  omega

/-- **Inversion of start-up.**  It opens nothing; or it opens the device and gives up before it maps
anything; or it goes through the mapping loop, over a table of as many entries as were granted. -/
theorem startupWebcam_cases (cam : Webcam) (args : StartupArgs) (answers : StartupAnswers) :
    let result := startupWebcam cam args answers
    (result.1.calls = [] ∧ result.2.fd < 0 ∧ result.1.ret = some false) ∨
      (∃ fd : Nat, result.1.calls = [.opened fd] ∧ result.1.ret = some false) ∨
      ∃ (fd : Nat) (entries : List Buffer), entries.length < 4294967296 ∧ result.2.fd = fd ∧
        result.1.calls = .opened fd :: (mapBuffers answers.buffer 0 entries).2.1 ∧
        result.2.bufs = (mapBuffers answers.buffer 0 entries).1 ∧
        result.1.ret = some ((mapBuffers answers.buffer 0 entries).2.2 && answers.streamOn) := by
  intro result
  cases hopen : answers.openDevice with
  | none =>
    have hresult : result = ({ ret := some false }, { cam with fd := -1 }) := by
      simp only [result, startupWebcam, hopen]
    rw [hresult]
    exact Or.inl ⟨rfl, Int.negSucc_lt_zero 0, rfl⟩
  | some fd =>
    refine Or.inr ?_
    cases hget : answers.getFormat with
    | none =>
      refine Or.inl ⟨fd, ?_⟩
      simp only [result, startupWebcam, hopen, hget, and_self]
    | some found =>
      cases hrequest : answers.requestBuffers args.bufferCount with
      | none =>
        refine Or.inl ⟨fd, ?_⟩
        simp only [result, startupWebcam, hopen, hget, hrequest, and_self]
      | some count =>
        by_cases hfew : count < 2
        · refine Or.inl ⟨fd, ?_⟩
          simp only [result, startupWebcam, hopen, hget, hrequest, if_pos hfew, and_self]
        · refine Or.inr ⟨fd, resize cam.bufs count.toNat, ?_, ?_⟩
          · rw [resize_length]
            exact count.toNat_lt
          · simp only [result, startupWebcam, hopen, hget, hrequest, if_neg hfew,
              List.singleton_append, and_self]

/-- An entry of the table that is mapped, with the length that the driver gave for its buffer. -/
def Mapped (buffer : Nat → BufferAnswers) (calls : List SystemCall) (i : Nat) (b : Buffer) : Prop :=
  b.start ≠ nullptr ∧ b.start ≠ mapFailed ∧ b ∈ mappings calls ∧
    (buffer i).queryBuf = some b.length

/-- Further calls leave a mapped entry mapped. -/
theorem Mapped.append {buffer : Nat → BufferAnswers} {calls : List SystemCall} {i : Nat}
    {b : Buffer} (mapped : Mapped buffer calls i b) (more : List SystemCall) :
    Mapped buffer (calls ++ more) i b := by
  obtain ⟨hnull, hfailed, hmem, hlength⟩ := mapped
  refine ⟨hnull, hfailed, ?_, hlength⟩
  rw [mappings_append]
  exact List.mem_append_left _ hmem

/-- A driver that holds only buffers before `i` takes buffer `i`. -/
theorem handOver_next {held : List UInt32} {i : Nat} (small : i < 4294967296)
    (hbefore : ∀ x ∈ held, x.toNat < i) :
    handOver held (.queued (UInt32.ofNat i) true) = held ++ [UInt32.ofNat i] ∧
      ∀ x ∈ held ++ [UInt32.ofNat i], x.toNat < i + 1 := by
  have hindex : (UInt32.ofNat i).toNat = i := by
    rw [UInt32.toNat_ofNat']
    exact Nat.mod_eq_of_lt small
  have hnew : UInt32.ofNat i ∉ held := by
    intro hmem
    have hlt := hbefore _ hmem
    rw [hindex] at hlt
    exact Nat.lt_irrefl i hlt
  refine ⟨if_pos ⟨rfl, hnew⟩, fun x hx => ?_⟩
  rcases List.mem_append.mp hx with hx | hx
  · exact Nat.lt_succ_of_lt (hbefore x hx)
  · rw [List.mem_singleton.mp hx, hindex]
    exact Nat.lt_succ_self i

/-- **What the mapping loop hands over.**  Of the entries from `i` on it maps and queues the first
`n`, and all of them if it goes through. -/
theorem mapBuffers_held (buffer : Nat → BufferAnswers) (i : Nat) (entries : List Buffer)
    (small : i + entries.length ≤ 4294967296) :
    let result := mapBuffers buffer i entries
    ∃ n ≤ entries.length,
      (∀ held : List UInt32, (∀ x ∈ held, x.toNat < i) →
        result.2.1.foldl handOver held = held ++ (List.range' i n).map UInt32.ofNat) ∧
      (∀ j < n, ∃ b, result.1[j]? = some b ∧ Mapped buffer result.2.1 (i + j) b) ∧
      unmappings result.2.1 = [] ∧ result.1.length = entries.length ∧
      (result.2.2 = true → n = entries.length) := by
  induction entries generalizing i with
  | nil => exact ⟨0, Nat.le_refl 0, fun held _ => by simp [mapBuffers], by simp, rfl, rfl, by simp⟩
  | cons entry rest ih =>
    cases hquery : (buffer i).queryBuf with
    | none =>
      refine ⟨0, Nat.zero_le _, ?_⟩
      simp [mapBuffers, hquery, unmappings]
    | some length =>
      cases hmap : (buffer i).mmap with
      | none =>
        refine ⟨0, Nat.zero_le _, ?_⟩
        simp [mapBuffers, hquery, hmap, unmappings]
      | some start =>
        cases hqueue : (buffer i).queueBuf with
        | false =>
          refine ⟨0, Nat.zero_le _, ?_⟩
          simp [mapBuffers, hquery, hmap, hqueue, unmappings, handOver]
        | true =>
          rw [List.length_cons] at small
          obtain ⟨n, hn, hheld, hmapped, hunmapped, hlength, hall⟩ := ih (i + 1) (by omega)
          have hresult : mapBuffers buffer i (entry :: rest) =
              (⟨start, length⟩ :: (mapBuffers buffer (i + 1) rest).1,
                .mapped start length :: .queued (UInt32.ofNat i) true ::
                  (mapBuffers buffer (i + 1) rest).2.1,
                (mapBuffers buffer (i + 1) rest).2.2) := by
            simp only [mapBuffers, hquery, hmap, hqueue, Bool.not_true, Bool.false_eq_true,
              if_false]
          rw [hresult]
          refine ⟨n + 1, by simpa using hn, fun held hsmall => ?_, fun j hj => ?_, hunmapped, ?_,
            fun hok => ?_⟩
          · obtain ⟨htaken, hnext⟩ := handOver_next (by omega) hsmall
            show ((mapBuffers buffer (i + 1) rest).2.1).foldl handOver
              (handOver (handOver held (.mapped start length)) (.queued (UInt32.ofNat i) true)) = _
            rw [show handOver (handOver held (.mapped start length))
                (.queued (UInt32.ofNat i) true) = _ from htaken, hheld _ hnext, List.range'_succ,
              List.map_cons, List.append_assoc, List.singleton_append]
          · cases j with
            | zero =>
              refine ⟨⟨start, length⟩, rfl, start.property.1, start.property.2, ?_, hquery⟩
              exact List.mem_cons_self ..
            | succ j =>
              obtain ⟨b, hb, hnull, hfailed, hmem, hlen⟩ := hmapped j (by omega)
              refine ⟨b, hb, hnull, hfailed, List.mem_cons_of_mem _ hmem, ?_⟩
              rw [show i + (j + 1) = i + 1 + j by omega]
              exact hlen
          · rw [List.length_cons, List.length_cons, hlength]
          · rw [hall hok, List.length_cons]

/-! ### The other two functions -/

/-- **Inversion of a snapshot.**  It dequeues nothing; or it dequeues a buffer of an open device, and
hands it over again unless it does not return. -/
theorem takeSnapshot_cases (conv : ColourFunction) (cam : Webcam) (answers : SnapshotAnswers) :
    (takeSnapshot conv cam answers).1.calls = [] ∨
      ∃ index bytesused, 0 ≤ cam.fd ∧ answers.dequeue = some (index, bytesused) ∧
        ((takeSnapshot conv cam answers).1.calls = [.dequeued index] ∧
            (takeSnapshot conv cam answers).1.ret = none ∨
          (takeSnapshot conv cam answers).1.calls =
            [.dequeued index, .queued index answers.requeue]) := by
  by_cases hfd : cam.fd < 0
  · refine Or.inl ?_
    simp only [takeSnapshot, if_pos hfd]
  · cases hdequeue : answers.dequeue with
    | none =>
      refine Or.inl ?_
      simp only [takeSnapshot, if_neg hfd, hdequeue]
    | some frame =>
      refine Or.inr ⟨frame.1, frame.2, Int.not_lt.mp hfd, rfl, ?_⟩
      cases hsave : (saveFrame conv cam.fmt answers).1 with
      | none =>
        refine Or.inl ?_
        simp only [takeSnapshot, if_neg hfd, hdequeue, hsave, and_self]
      | some ok =>
        refine Or.inr ?_
        simp only [takeSnapshot, if_neg hfd, hdequeue, hsave]

theorem heldByDriver_append (calls more : List SystemCall) :
    heldByDriver (calls ++ more) = more.foldl handOver (heldByDriver calls) :=
  List.foldl_append

/-- The buffer that these calls took from the driver and did not give back. -/
def notGivenBack : List SystemCall → List UInt32
  | [.dequeued index] => [index]
  | [.dequeued index, .queued _ accepted] => if accepted then [] else [index]
  | _ => []

/-- **What a snapshot leaves with the driver**: what it held before, each buffer once, but for the
one that was not given back. -/
theorem handOver_snapshot (conv : ColourFunction) (cam : Webcam) (answers : SnapshotAnswers)
    {held : List UInt32} (nodup : held.Nodup)
    (delivers : 0 ≤ cam.fd → ∀ index bytesused, answers.dequeue = some (index, bytesused) →
      index ∈ held) :
    let calls := (takeSnapshot conv cam answers).1.calls
    (calls.foldl handOver held ++ notGivenBack calls).Perm held := by
  intro calls
  rcases takeSnapshot_cases conv cam answers with
    hnone | ⟨index, bytesused, hopen, hdequeue, ⟨hlost, -⟩ | hback⟩
  · rw [show calls = [] from hnone]
    exact List.Perm.of_eq (List.append_nil held)
  · have hmem := delivers hopen index bytesused hdequeue
    rw [show calls = _ from hlost]
    exact (List.perm_append_singleton index _).trans (List.perm_cons_erase hmem).symm
  · have hmem := delivers hopen index bytesused hdequeue
    rw [show calls = _ from hback]
    refine List.Perm.trans (List.Perm.of_eq ?_)
      ((List.perm_append_singleton index _).trans (List.perm_cons_erase hmem).symm)
    cases answers.requeue with
    | true =>
      have hqueued : handOver (held.erase index) (.queued index true) =
          held.erase index ++ [index] := if_pos ⟨rfl, nodup.not_mem_erase⟩
      exact (List.append_nil _).trans hqueued
    | false =>
      have hrefused : handOver (held.erase index) (.queued index false) = held.erase index := by
        simp [handOver]
      exact congrArg (· ++ [index]) hrefused

/-- After an open device is shut down its driver holds nothing. -/
theorem heldByDriver_shutdown (calls : List SystemCall) {cam : Webcam} (hopen : ¬ cam.fd < 0) :
    heldByDriver (calls ++ (shutdownWebcam cam).1.calls) = [] := by
  simp only [shutdownWebcam, if_neg hopen]
  rw [← List.append_assoc, heldByDriver_append]
  rfl

/-! ### The run invariant -/

/-- Only a start-up changes which one is the last. -/
theorem lastStartup_snoc (steps : List CamStep) (step : CamStep) :
    lastStartup (steps ++ [step]) =
      match step with
      | .startup args answers => some (args, answers)
      | .takeSnapshot _ => lastStartup steps
      | .shutdown => lastStartup steps := by
  rw [lastStartup, lastValue_snoc]
  cases step <;> rfl

/-- The entry of the table for a buffer that the driver holds: mapped in this session and not
unmapped since, with the length the driver gave at the last start-up. -/
def InCustody (hist : List CamEvent) (cam : Webcam) (index : UInt32) : Prop :=
  ∃ b args startup, lastStartup (hist.map Event.input) = some (args, startup) ∧
    cam.bufs[index.toNat]? = some b ∧ Mapped startup.buffer (callsSince hist) index.toNat b ∧
    unmappings (callsSince hist) = []

/-- A closed device has lent out nothing; what an open device has lent out is in its table. -/
structure Custody (hist : List CamEvent) (cam : Webcam) : Prop where
  closed : cam.fd < 0 → heldByDriver (callsSince hist) = []
  nodup : (heldByDriver (callsSince hist)).Nodup
  entry : ∀ index ∈ heldByDriver (callsSince hist), InCustody hist cam index

/-- Where nothing is lent out there is nothing to keep. -/
theorem Custody.of_nil {hist : List CamEvent} {cam : Webcam}
    (hnil : heldByDriver (callsSince hist) = []) : Custody hist cam := by
  refine ⟨fun _ => hnil, ?_, ?_⟩
  · rw [hnil]
    exact List.nodup_nil
  · rw [hnil]
    exact fun index hindex => absurd hindex List.not_mem_nil

/-- The buffers before the `n`th, each once. -/
theorem nodup_indices {n : Nat} (small : n ≤ 4294967296) :
    ((List.range' 0 n).map UInt32.ofNat).Nodup := by
  refine List.Nodup.map_on ?_ List.nodup_range'
  intro x hx y hy heq
  rw [List.mem_range'_1] at hx hy
  have htoNat := congrArg UInt32.toNat heq
  rw [UInt32.toNat_ofNat', UInt32.toNat_ofNat', Nat.mod_eq_of_lt (by omega),
    Nat.mod_eq_of_lt (by omega)] at htoNat
  exact htoNat

section Run

variable (conv : ColourFunction)

/-- Start-up lends out only what it mapped. -/
theorem custody_startup (hist : List CamEvent) (cam : Webcam) (args : StartupArgs)
    (answers : StartupAnswers) :
    Custody (hist ++ [(webcamRun conv).event cam (.startup args answers)])
      (startupWebcam cam args answers).2 := by
  have hcalls := callsSince_startup conv hist cam args answers
  rcases startupWebcam_cases cam args answers with
    ⟨hnone, -⟩ | ⟨fd, hearly, -⟩ | ⟨fd, entries, hlength, hfd, hmap, hbufs, -⟩
  · refine .of_nil ?_
    rw [hcalls, hnone]
    rfl
  · refine .of_nil ?_
    rw [hcalls, hearly]
    rfl
  · obtain ⟨n, hn, hheld, hmapped, hunmapped, -, -⟩ :=
      mapBuffers_held answers.buffer 0 entries (by omega)
    have hlent : heldByDriver
        (callsSince (hist ++ [(webcamRun conv).event cam (.startup args answers)])) =
          (List.range' 0 n).map UInt32.ofNat := by
      rw [hcalls, hmap]
      exact hheld [] (by simp)
    refine ⟨fun hclosed => ?_, ?_, fun index hindex => ?_⟩
    · rw [hfd] at hclosed
      exact absurd (Int.natCast_nonneg fd) (Int.not_le.mpr hclosed)
    · rw [hlent]
      exact nodup_indices (by omega)
    · rw [hlent] at hindex
      obtain ⟨i, hi, rfl⟩ := List.mem_map.mp hindex
      rw [List.mem_range'_1] at hi
      have htoNat : (UInt32.ofNat i).toNat = i := by
        rw [UInt32.toNat_ofNat']
        exact Nat.mod_eq_of_lt (by omega)
      obtain ⟨b, hb, mapped⟩ := hmapped i (by omega)
      refine ⟨b, args, answers, ?_, ?_, ?_, ?_⟩
      · rw [List.map_append, List.map_singleton, Machine.event_input, lastStartup_snoc]
      · rw [htoNat, hbufs]
        exact hb
      · rw [Nat.zero_add] at mapped
        rw [htoNat, hcalls, hmap]
        exact mapped
      · rw [hcalls, hmap]
        exact hunmapped

/-- A step that neither opens nor closes the device keeps the entries of the table. -/
theorem InCustody.keep {hist : List CamEvent} {cam : Webcam} {index : UInt32}
    (custody : InCustody hist cam index) (answers : SnapshotAnswers) :
    InCustody (hist ++ [(webcamRun conv).event cam (.takeSnapshot answers)]) cam index := by
  obtain ⟨b, args, startup, hlast, hb, mapped, hunmapped⟩ := custody
  obtain ⟨hcalls, -⟩ := callsSince_other conv hist cam (.takeSnapshot answers)
    (fun _ _ heq => by cases heq)
  obtain ⟨-, ⟨-, -, -, hnone⟩, -⟩ := takeSnapshot_spec conv cam answers
  refine ⟨b, args, startup, ?_, hb, ?_, ?_⟩
  · rw [List.map_append, List.map_singleton, Machine.event_input, lastStartup_snoc]
    exact hlast
  · rw [hcalls]
    exact mapped.append _
  · rw [hcalls, unmappings_append, hunmapped]
    exact hnone

/-- Every step keeps the invariant. -/
theorem custody_step (hist : List CamEvent) (cam : Webcam) (step : CamStep)
    (delivers : driverDelivers hist cam step) (inv : Custody hist cam) :
    Custody (hist ++ [(webcamRun conv).event cam step]) ((webcamRun conv).step cam step).2 := by
  cases step with
  | startup args answers => exact custody_startup conv hist cam args answers
  | takeSnapshot answers =>
    obtain ⟨hcalls, -⟩ := callsSince_other conv hist cam (.takeSnapshot answers)
      (fun _ _ heq => by cases heq)
    obtain ⟨hcam, -, -⟩ := takeSnapshot_spec conv cam answers
    show Custody _ (takeSnapshot conv cam answers).2
    rw [hcam]
    -- what the driver holds after the snapshot it held before, once
    have hlent : (heldByDriver
        (callsSince (hist ++ [(webcamRun conv).event cam (.takeSnapshot answers)]))).Nodup ∧
        ∀ index ∈ heldByDriver
          (callsSince (hist ++ [(webcamRun conv).event cam (.takeSnapshot answers)])),
          index ∈ heldByDriver (callsSince hist) := by
      have hperm := handOver_snapshot conv cam answers inv.nodup
        fun hopen index bytesused hdequeue => (delivers hopen index bytesused hdequeue).1
      rw [hcalls, heldByDriver_append]
      exact ⟨(List.nodup_append.mp (hperm.nodup_iff.mpr inv.nodup)).1,
        fun index hindex => hperm.subset (List.mem_append_left _ hindex)⟩
    refine ⟨fun hclosed => ?_, hlent.1, fun index hindex => ?_⟩
    · refine List.eq_nil_iff_forall_not_mem.mpr fun x hx => ?_
      have hbefore := hlent.2 x hx
      rw [inv.closed hclosed] at hbefore
      exact absurd hbefore List.not_mem_nil
    · exact (inv.entry index (hlent.2 index hindex)).keep conv answers
  | shutdown =>
    obtain ⟨hcalls, -⟩ := callsSince_other conv hist cam .shutdown
      (fun _ _ heq => by cases heq)
    refine .of_nil ?_
    rw [hcalls]
    show heldByDriver (callsSince hist ++ (shutdownWebcam cam).1.calls) = []
    by_cases hclosed : cam.fd < 0
    · have hnone : (shutdownWebcam cam).1.calls = [] := by
        simp only [shutdownWebcam, if_pos hclosed]
      rw [hnone, List.append_nil]
      exact inv.closed hclosed
    · exact heldByDriver_shutdown _ hclosed

/-- **The run invariant.** -/
theorem custody_run (steps : List CamStep)
    (delivers : (webcamRun conv).Lawful driverDelivers {} steps) :
    Custody ((webcamRun conv).trace {} steps) ((webcamRun conv).final {} steps) :=
  Machine.lawful_induction (.of_nil rfl) (custody_step conv) steps delivers

/-! ### What a snapshot reads -/

/-- Of a JPEG no more than the valid bytes is read. -/
theorem framePositions_jpeg {fmt : PixFormat}
    (hformat : fmt.pixelformat = pixFmtMjpeg ∨ fmt.pixelformat = pixFmtJpeg)
    (answers : SnapshotAnswers) (bytesused : UInt32) :
    ∀ pos ∈ framePositions conv fmt answers bytesused, pos < bytesused.toNat := by
  intro pos hpos
  simp only [framePositions, if_pos hformat] at hpos
  split at hpos
  · exact List.mem_range.mp hpos
  · exact absurd hpos List.not_mem_nil

/-- Of a YUYV frame four bytes are read for every two pixels, the last pair counted full. -/
theorem framePositions_yuyv {fmt : PixFormat} (hformat : fmt.pixelformat = pixFmtYuyv)
    (answers : SnapshotAnswers) (bytesused : UInt32) (hrow : FitsInt (3 * asInt fmt.width))
    (hsize : FitsInt (3 * asInt fmt.width * asInt fmt.height)) :
    framePositions conv fmt answers bytesused =
      List.range (4 * (((asInt fmt.width * asInt fmt.height).toNat + 1) / 2)) := by
  have hjpeg : ¬ (pixFmtYuyv = pixFmtMjpeg ∨ pixFmtYuyv = pixFmtJpeg) := by decide
  simp only [framePositions, hformat, if_neg hjpeg, if_true]
  generalize asInt fmt.width = W at hrow hsize ⊢
  generalize asInt fmt.height = H at hsize ⊢
  have hmul : (intMul 3 W).bind (fun rows => intMul rows H) = some (3 * W * H) := by
    simp only [intMul, if_pos hrow, Option.bind_some, if_pos hsize]
  have hassoc : 3 * W * H = 3 * (W * H) := Int.mul_assoc 3 W H
  by_cases hneg : 3 * W * H < 0
  · have hnone : (W * H).toNat = 0 := by omega
    simp only [convertFrame, hmul, if_pos hneg, hnone]
    rfl
  · have hfits : FitsInt (W * H) := by
      obtain ⟨hlow, hhigh⟩ := hsize
      exact ⟨by omega, by omega⟩
    simp only [convertFrame, hmul, if_neg hneg, yuyvToRgb_eq conv answers.frame hfits]
    rfl

/-- **Every snapshot reads a live mapping of its session.**  In every run of the three functions, in
any order and whatever the kernel answers, with a driver that hands out only buffers it holds: the
number that a snapshot dequeues is in the table, and its entry was mapped in this session, is not
unmapped, has room for the valid bytes, and is not with the driver while it is read.  A JPEG is read
inside it; a YUYV frame, where the products have a value, exactly if the mapping has four bytes for
every two pixels, the last pair counted full. -/
theorem snapshot_reads_its_mapping (steps : List CamStep)
    (delivers : (webcamRun conv).Lawful driverDelivers {} steps) (pre post : List CamStep)
    (answers : SnapshotAnswers) (hsteps : steps = pre ++ .takeSnapshot answers :: post)
    (hopen : 0 ≤ ((webcamRun conv).final {} pre).fd) (index bytesused : UInt32)
    (hdequeue : answers.dequeue = some (index, bytesused)) :
    let calls := callsSince ((webcamRun conv).trace {} pre)
    let cam := (webcamRun conv).final {} pre
    let reads := framePositions conv cam.fmt answers bytesused
    ∃ b, cam.bufs[index.toNat]? = some b ∧ b.start ≠ nullptr ∧ b.start ≠ mapFailed ∧
      b ∈ mappings calls ∧ b ∉ unmappings calls ∧ bytesused.toNat ≤ b.length ∧
      index ∈ heldByDriver calls ∧ index ∉ heldByDriver (calls ++ [.dequeued index]) ∧
      (cam.fmt.pixelformat = pixFmtMjpeg ∨ cam.fmt.pixelformat = pixFmtJpeg →
        ∀ pos ∈ reads, pos < b.length) ∧
      (cam.fmt.pixelformat = pixFmtYuyv → FitsInt (3 * asInt cam.fmt.width) →
        FitsInt (3 * asInt cam.fmt.width * asInt cam.fmt.height) →
        ((∀ pos ∈ reads, pos < b.length) ↔
          4 * (((asInt cam.fmt.width * asInt cam.fmt.height).toNat + 1) / 2) ≤ b.length)) := by
  intro calls cam reads
  rw [hsteps] at delivers
  obtain ⟨hpre, hdelivers⟩ := Machine.lawful_split delivers
  have inv := custody_run conv pre hpre
  obtain ⟨hheld, hroom⟩ := hdelivers hopen index bytesused hdequeue
  obtain ⟨b, args, startup, hlast, hb, ⟨hnull, hfailed, hmapped, hlength⟩, hunmapped⟩ :=
    inv.entry index hheld
  have hbytes : bytesused.toNat ≤ b.length := hroom args startup hlast b.length hlength
  refine ⟨b, hb, hnull, hfailed, hmapped, ?_, hbytes, hheld, ?_, fun hformat pos hpos => ?_,
    fun hformat hrow hsize => ?_⟩
  · rw [hunmapped]
    exact List.not_mem_nil
  · rw [heldByDriver_append]
    exact inv.nodup.not_mem_erase
  · exact Nat.lt_of_lt_of_le (framePositions_jpeg conv hformat answers bytesused pos hpos) hbytes
  · rw [show reads = _ from framePositions_yuyv conv hformat answers bytesused hrow hsize,
      range_below_iff]

/-! ### No buffer is lost -/

/-- Did the last start-up succeed? -/
def sessionStarted (hist : List CamEvent) : Bool :=
  lastValue (fun e => match e.input with
    | .startup _ _ => some (decide (e.output.ret = some true))
    | .takeSnapshot _ => none
    | .shutdown => none) false hist

/-- The buffers that snapshots since the last start-up took and did not give back. -/
def lostSince (hist : List CamEvent) : List UInt32 :=
  hist.foldl (fun lost e => match e.input with
    | .startup _ _ => []
    | _ => lost ++ notGivenBack e.output.calls) []

/-- Every buffer is given back: the snapshot returns, and the driver takes the buffer. -/
def givesBack (_ : List CamEvent) (cam : Webcam) : CamStep → Prop
  | .startup _ _ => True
  | .takeSnapshot answers =>
      (takeSnapshot conv cam answers).1.ret ≠ none ∧ answers.requeue = true
  | .shutdown => True

/-- In a started session the driver holds every buffer of the table that is not lost. -/
def AllLent (hist : List CamEvent) (cam : Webcam) : Prop :=
  sessionStarted hist = true → 0 ≤ cam.fd →
    (heldByDriver (callsSince hist) ++ lostSince hist).Perm
      ((List.range cam.bufs.length).map UInt32.ofNat)

theorem lostSince_startup (hist : List CamEvent) (cam : Webcam) (args : StartupArgs)
    (answers : StartupAnswers) :
    lostSince (hist ++ [(webcamRun conv).event cam (.startup args answers)]) = [] := by
  rw [lostSince, List.foldl_append]
  rfl

theorem lostSince_takeSnapshot (hist : List CamEvent) (cam : Webcam) (answers : SnapshotAnswers) :
    lostSince (hist ++ [(webcamRun conv).event cam (.takeSnapshot answers)]) =
      lostSince hist ++ notGivenBack (takeSnapshot conv cam answers).1.calls := by
  rw [lostSince, List.foldl_append]
  rfl

theorem allLent_startup (hist : List CamEvent) (cam : Webcam) (args : StartupArgs)
    (answers : StartupAnswers) :
    AllLent (hist ++ [(webcamRun conv).event cam (.startup args answers)])
      (startupWebcam cam args answers).2 := by
  intro hstarted _
  have hret : (startupWebcam cam args answers).1.ret = some true := by
    rw [sessionStarted, lastValue_snoc] at hstarted
    exact of_decide_eq_true hstarted
  rcases startupWebcam_cases cam args answers with
    ⟨-, -, hfalse⟩ | ⟨fd, -, hfalse⟩ | ⟨fd, entries, hlength, -, hmap, hbufs, hok⟩
  · rw [hret] at hfalse
    cases hfalse
  · rw [hret] at hfalse
    cases hfalse
  · obtain ⟨n, -, hheld, -, -, hsame, hall⟩ := mapBuffers_held answers.buffer 0 entries (by omega)
    rw [hret] at hok
    have hthrough : (mapBuffers answers.buffer 0 entries).2.2 = true :=
      (Bool.and_eq_true_iff.mp (Option.some.inj hok).symm).1
    rw [lostSince_startup, List.append_nil, callsSince_startup, hmap, hbufs, hsame, ← hall hthrough,
      List.range_eq_range']
    exact List.Perm.of_eq (hheld [] (by simp))

/-- A snapshot keeps the account: what it does not give back is lost. -/
theorem allLent_takeSnapshot (hist : List CamEvent) (cam : Webcam) (answers : SnapshotAnswers)
    (delivers : driverDelivers hist cam (.takeSnapshot answers)) (custody : Custody hist cam)
    (lent : AllLent hist cam) :
    AllLent (hist ++ [(webcamRun conv).event cam (.takeSnapshot answers)])
      (takeSnapshot conv cam answers).2 := by
  obtain ⟨hcalls, -⟩ := callsSince_other conv hist cam (.takeSnapshot answers)
    (fun _ _ heq => by cases heq)
  obtain ⟨hcam, -, -⟩ := takeSnapshot_spec conv cam answers
  rw [hcam]
  intro hstarted hopen
  have hstarted' : sessionStarted hist = true := by
    rw [sessionStarted, lastValue_snoc] at hstarted
    exact hstarted
  have hperm := handOver_snapshot conv cam answers custody.nodup
    fun hopen index bytesused hdequeue => (delivers hopen index bytesused hdequeue).1
  refine List.Perm.trans ?_ (lent hstarted' hopen)
  rw [lostSince_takeSnapshot, hcalls, heldByDriver_append]
  -- the buffer moves from what the driver holds to what is lost
  refine (List.perm_append_comm.append_left _).trans ?_
  rw [← List.append_assoc]
  exact hperm.append_right _

theorem allLent_step (hist : List CamEvent) (cam : Webcam) (step : CamStep)
    (delivers : driverDelivers hist cam step) (inv : Custody hist cam ∧ AllLent hist cam) :
    Custody (hist ++ [(webcamRun conv).event cam step]) ((webcamRun conv).step cam step).2 ∧
      AllLent (hist ++ [(webcamRun conv).event cam step]) ((webcamRun conv).step cam step).2 := by
  obtain ⟨custody, lent⟩ := inv
  refine ⟨custody_step conv hist cam step delivers custody, ?_⟩
  cases step with
  | startup args answers => exact allLent_startup conv hist cam args answers
  | takeSnapshot answers =>
    exact allLent_takeSnapshot conv hist cam answers delivers custody lent
  | shutdown =>
    -- shutdown leaves the device closed
    intro _ hopen
    by_cases hclosed : cam.fd < 0
    · have hsame : (shutdownWebcam cam).2 = cam := by simp only [shutdownWebcam, if_pos hclosed]
      have hopen' : 0 ≤ (shutdownWebcam cam).2.fd := hopen
      rw [hsame] at hopen'
      exact absurd hopen' (Int.not_le.mpr hclosed)
    · have hfd : (shutdownWebcam cam).2.fd = -1 := by simp only [shutdownWebcam, if_neg hclosed]
      have hopen' : 0 ≤ (shutdownWebcam cam).2.fd := hopen
      rw [hfd] at hopen'
      exact absurd hopen' (by decide)

/-- A snapshot that gives its buffer back loses none. -/
theorem notGivenBack_of_givesBack {hist : List CamEvent} {cam : Webcam} {answers : SnapshotAnswers}
    (back : givesBack conv hist cam (.takeSnapshot answers)) :
    notGivenBack (takeSnapshot conv cam answers).1.calls = [] := by
  obtain ⟨returns, hrequeue⟩ := back
  rcases takeSnapshot_cases conv cam answers with
    hnone | ⟨index, bytesused, -, -, ⟨-, hlost⟩ | hback⟩
  · rw [hnone]
    rfl
  · exact absurd hlost returns
  · rw [hback, hrequeue]
    rfl

/-- Where every buffer is given back none is lost. -/
theorem lostSince_of_givesBack (steps : List CamStep)
    (back : (webcamRun conv).Lawful (givesBack conv) {} steps) :
    lostSince ((webcamRun conv).trace {} steps) = [] := by
  refine Machine.lawful_induction (R := fun hist _ => lostSince hist = []) rfl
    (fun hist cam step hback inv => ?_) steps back
  cases step with
  | startup args answers => exact lostSince_startup conv hist cam args answers
  | takeSnapshot answers =>
    rw [lostSince_takeSnapshot, inv, notGivenBack_of_givesBack conv hback]
    rfl
  | shutdown =>
    have hnone : notGivenBack (shutdownWebcam cam).1.calls = [] := by
      simp only [shutdownWebcam]
      split
      · rfl
      · cases releasable cam.bufs with
        | nil => rfl
        | cons b bufs => rfl
    rw [lostSince, List.foldl_append]
    show lostSince hist ++ notGivenBack (shutdownWebcam cam).1.calls = []
    rw [inv, hnone]
    rfl

/-- **The account of the buffers.**  In every run in which the driver hands out only buffers it
holds, from a start-up that succeeded to the next shutdown, between any two calls: the buffers that
the driver holds and those that a snapshot took and did not give back are together the buffers of
the table, each once.  Where every snapshot returns and the driver takes back what it is handed, the
driver holds all of them, so that there is always one it can fill. -/
theorem driver_gets_buffers_back (steps : List CamStep)
    (delivers : (webcamRun conv).Lawful driverDelivers {} steps) :
    let hist := (webcamRun conv).trace {} steps
    let cam := (webcamRun conv).final {} steps
    let all := (List.range cam.bufs.length).map UInt32.ofNat
    sessionStarted hist = true → 0 ≤ cam.fd →
      (heldByDriver (callsSince hist) ++ lostSince hist).Perm all ∧
        ((webcamRun conv).Lawful (givesBack conv) {} steps →
          (heldByDriver (callsSince hist)).Perm all) := by
  intro hist cam all hstarted hopen
  have hstart : Custody [] ({} : Webcam) ∧ AllLent [] ({} : Webcam) :=
    ⟨.of_nil rfl, fun hstarted => by cases hstarted⟩
  have hall : (heldByDriver (callsSince hist) ++ lostSince hist).Perm all :=
    (Machine.lawful_induction hstart (allLent_step conv) steps delivers).2 hstarted hopen
  refine ⟨hall, fun back => ?_⟩
  rw [show lostSince hist = [] from lostSince_of_givesBack conv steps back, List.append_nil] at hall
  exact hall

end Run

/-! ### A run -/

/-- A frame of two grey pixels in the buffer with this number. -/
def greyFrame (index : UInt32) : SnapshotAnswers :=
  ⟨some (index, 4), [16, 128, 235, 128], true, true⟩

/-- Start-up for frames of two pixels, then two snapshots, the second buffer first. -/
def greyRun : List CamStep :=
  [.startup { width := 2, height := 1 } (twoBuffers mappedBuffer), .takeSnapshot (greyFrame 1),
    .takeSnapshot (greyFrame 0)]

/-- The bytes of a grey frame fit the buffers of the run. -/
theorem greyFrame_fits {steps : List CamStep} (index : UInt32)
    (hlast : lastStartup steps = some ({ width := 2, height := 1 }, twoBuffers mappedBuffer)) :
    ∀ args startup, lastStartup steps = some (args, startup) →
      ∀ length, (startup.buffer index.toNat).queryBuf = some length → 4 ≤ length := by
  intro args startup hsome length hlength
  rw [hlast] at hsome
  cases hsome
  cases hlength
  decide

theorem greyRun_delivers : (webcamRun convMillionths).Lawful driverDelivers {} greyRun := by
  refine ⟨trivial, fun _ index bytesused hdequeue => ?_, fun _ index bytesused hdequeue => ?_,
    trivial⟩
  · cases hdequeue
    exact ⟨by decide, greyFrame_fits 1 rfl⟩
  · cases hdequeue
    exact ⟨by decide, greyFrame_fits 0 rfl⟩

/-- The second snapshot of the run reads the first mapping. -/
theorem snapshot_reads_its_mapping_grey :
    let cam := (webcamRun convMillionths).final {} (greyRun.take 2)
    ∃ b, cam.bufs[0]? = some b ∧ b = ⟨0x100000, 614400⟩ ∧
      ∀ pos ∈ framePositions convMillionths cam.fmt (greyFrame 0) 4, pos < b.length := by
  intro cam
  obtain ⟨b, hb, -, -, -, -, -, -, -, -, hyuyv⟩ :=
    snapshot_reads_its_mapping convMillionths greyRun greyRun_delivers (greyRun.take 2) []
      (greyFrame 0) rfl (by decide) 0 4 rfl
  have hentry : b = ⟨0x100000, 614400⟩ := by
    have hfirst : cam.bufs[0]? = some ⟨0x100000, 614400⟩ := by decide
    exact Option.some.inj (hb.symm.trans hfirst)
  refine ⟨b, hb, hentry, (hyuyv (by decide) (by decide) (by decide)).mpr ?_⟩
  rw [hentry]
  decide

/-- The second snapshot's buffer is not taken back. -/
def refusedRun : List CamStep :=
  [.startup { width := 2, height := 1 } (twoBuffers mappedBuffer), .takeSnapshot (greyFrame 1),
    .takeSnapshot { greyFrame 0 with requeue := false }]

theorem refusedRun_delivers : (webcamRun convMillionths).Lawful driverDelivers {} refusedRun := by
  refine ⟨trivial, fun _ index bytesused hdequeue => ?_, fun _ index bytesused hdequeue => ?_,
    trivial⟩
  · cases hdequeue
    exact ⟨by decide, greyFrame_fits 1 rfl⟩
  · cases hdequeue
    exact ⟨by decide, greyFrame_fits 0 rfl⟩

/-- After the first run the driver has both buffers again, after the second one is lost. -/
theorem driver_gets_buffers_back_grey :
    (heldByDriver (callsSince ((webcamRun convMillionths).trace {} greyRun))).Perm [0, 1] ∧
      lostSince ((webcamRun convMillionths).trace {} refusedRun) = [0] ∧
      (heldByDriver (callsSince ((webcamRun convMillionths).trace {} refusedRun)) ++ [0]).Perm
        [0, 1] := by
  have back : (webcamRun convMillionths).Lawful (givesBack convMillionths) {} greyRun :=
    ⟨trivial, ⟨by decide, rfl⟩, ⟨by decide, rfl⟩, trivial⟩
  have hgrey := (driver_gets_buffers_back convMillionths greyRun greyRun_delivers (by decide)
    (by decide)).2 back
  have hrefused := (driver_gets_buffers_back convMillionths refusedRun refusedRun_delivers
    (by decide) (by decide)).1
  have hlost : lostSince ((webcamRun convMillionths).trace {} refusedRun) = [0] := by decide
  rw [hlost] at hrefused
  exact ⟨hgrey, hlost, hrefused⟩

end V4l2

end FsfwFromZero
