import FsfwFromZero.Lib.History
import FsfwFromZero.V4l2.Webcam

/-!
# The balance of descriptors, mappings and frame buffers

Start-up can fail at any of its system calls and leave a partly filled table of buffers, which
`shutdownWebcam` has to read back.  It takes an entry for mapped if its start is not null and its
length not zero.  An entry whose `mmap` failed has the start `MAP_FAILED`, which is not null: unless
its length is zero it is unmapped too, although it never was mapped.

* `openedFds`, `closedFds`, `mappings`, `unmappings` — what a list of system calls took and gave
  back, `callsSince` — the calls since the last start-up;
* `MapFails` — start-up gets as far as an `mmap` of a length other than zero that fails;
* `mapBuffers_spec`, `startupWebcam_spec` — **what start-up leaves for shutdown to release**;
* `CamInvariant` / `cam_invariant` — **the run invariant**;
* `balanced_iff` — **resources are balanced over a run exactly when no shutdown follows such a
  start-up**;
* `unmaps_failed_mapping` — one that does.
-/

namespace FsfwFromZero

open Lib

namespace V4l2

/-! ### Reading system calls -/

def openedFds (calls : List SystemCall) : List Int :=
  calls.filterMap fun
    | .opened fd => some fd
    | _ => none

def closedFds (calls : List SystemCall) : List Int :=
  calls.filterMap fun
    | .closed fd => some fd
    | _ => none

def mappings (calls : List SystemCall) : List Buffer :=
  calls.filterMap fun
    | .mapped start length => some ⟨start, length⟩
    | _ => none

def unmappings (calls : List SystemCall) : List Buffer :=
  calls.filterMap fun
    | .unmapped start length => some ⟨start, length⟩
    | _ => none

/-- The buffers that `VIDIOC_QBUF` was called for, whether or not the driver took them. -/
def queuedIndices (calls : List SystemCall) : List UInt32 :=
  calls.filterMap fun
    | .queued index _ => some index
    | _ => none

theorem openedFds_append (calls more : List SystemCall) :
    openedFds (calls ++ more) = openedFds calls ++ openedFds more := List.filterMap_append

theorem closedFds_append (calls more : List SystemCall) :
    closedFds (calls ++ more) = closedFds calls ++ closedFds more := List.filterMap_append

theorem mappings_append (calls more : List SystemCall) :
    mappings (calls ++ more) = mappings calls ++ mappings more := List.filterMap_append

theorem unmappings_append (calls more : List SystemCall) :
    unmappings (calls ++ more) = unmappings calls ++ unmappings more := List.filterMap_append

/-- The system calls from the last start-up on. -/
def callsSince (hist : List CamEvent) : List SystemCall :=
  hist.foldl (fun calls e => match e.input with
    | .startup _ _ => e.output.calls
    | _ => calls ++ e.output.calls) []

/-! ### Failed mappings -/

/-- All calls for a buffer succeed. -/
def BufferAnswers.Passes (b : BufferAnswers) : Prop :=
  b.queryBuf.isSome = true ∧ b.mmap.isSome = true ∧ b.queueBuf = true

/-- The buffer has a length, and its mapping fails. -/
def BufferAnswers.FailsToMap (b : BufferAnswers) : Prop :=
  ∃ length, length ≠ 0 ∧ b.queryBuf = some length ∧ b.mmap = none

/-- Of `count` buffers from `i` on, the first that does not pass fails to map. -/
def MapFailsFrom (buffer : Nat → BufferAnswers) (i count : Nat) : Prop :=
  ∃ k < count, (∀ j < k, (buffer (i + j)).Passes) ∧ (buffer (i + k)).FailsToMap

/-- Start-up gets as far as an `mmap` of a length other than zero that fails. -/
def MapFails (args : StartupArgs) (answers : StartupAnswers) : Prop :=
  answers.openDevice.isSome = true ∧ answers.getFormat.isSome = true ∧
    ∃ count, answers.requestBuffers args.bufferCount = some count ∧ ¬ count < 2 ∧
      MapFailsFrom answers.buffer 0 count.toNat

/-- The last start-up, with the kernel's answers. -/
def lastStartup (steps : List CamStep) : Option (StartupArgs × StartupAnswers) :=
  lastValue (fun
    | .startup args answers => some (some (args, answers))
    | _ => none) none steps

/-- The last start-up got as far as a mapping that failed. -/
def LastStartupFails (steps : List CamStep) : Prop :=
  ∃ args answers, lastStartup steps = some (args, answers) ∧ MapFails args answers

/-- A loop over one buffer more. -/
theorem mapFailsFrom_succ (buffer : Nat → BufferAnswers) (i count : Nat) :
    MapFailsFrom buffer i (count + 1) ↔
      (buffer i).FailsToMap ∨ ((buffer i).Passes ∧ MapFailsFrom buffer (i + 1) count) := by
  constructor
  · intro hfails
    obtain ⟨k, hk, hpass, hfail⟩ := hfails
    cases k with
    | zero => exact Or.inl hfail
    | succ k =>
      refine Or.inr ⟨hpass 0 (Nat.succ_pos k), k, by omega, fun j hj => ?_, ?_⟩
      · rw [show i + 1 + j = i + (j + 1) by omega]
        exact hpass (j + 1) (by omega)
      · rw [show i + 1 + k = i + (k + 1) by omega]
        exact hfail
  · intro hfails
    rcases hfails with hfail | ⟨hpass, k, hk, hpasses, hfail⟩
    · exact ⟨0, Nat.succ_pos count, fun j hj => absurd hj (Nat.not_lt_zero j), hfail⟩
    · refine ⟨k + 1, by omega, fun j hj => ?_, ?_⟩
      · cases j with
        | zero => exact hpass
        | succ j =>
          rw [show i + (j + 1) = i + 1 + j by omega]
          exact hpasses j (by omega)
      · rw [show i + (k + 1) = i + 1 + k by omega]
        exact hfail

/-! ### What start-up leaves -/

/-- Resizing an empty table makes new entries. -/
theorem resize_nil (count : Nat) : resize [] count = List.replicate count {} := by
  rw [resize, List.take_nil, List.nil_append, List.length_nil, Nat.sub_zero]

/-- Entries that were never filled are not released. -/
theorem releasable_replicate (count : Nat) : releasable (List.replicate count {}) = [] := by
  refine List.filter_eq_nil_iff.mpr fun b hb => ?_
  rw [List.eq_of_mem_replicate hb]
  decide

/-- An entry that has a start and a length is released. -/
theorem releasable_cons {b : Buffer} (bufs : List Buffer) (hstart : b.start ≠ nullptr)
    (hlength : b.length ≠ 0) : releasable (b :: bufs) = b :: releasable bufs :=
  List.filter_cons_of_pos (by simp [hstart, hlength])

/-- An entry without a length is not. -/
theorem releasable_cons_zero {b : Buffer} (bufs : List Buffer) (hlength : b.length = 0) :
    releasable (b :: bufs) = releasable bufs :=
  List.filter_cons_of_neg (by simp [hlength])

/-- **What the mapping loop leaves**: the entries that shutdown will release are those that were
mapped, and one more if a mapping failed. -/
theorem mapBuffers_spec (buffer : Nat → BufferAnswers) (i count : Nat) :
    ∃ failed, (failed = [] ↔ ¬ MapFailsFrom buffer i count) ∧
      releasable (mapBuffers buffer i (List.replicate count {})).1 =
        mappings (mapBuffers buffer i (List.replicate count {})).2.1 ++ failed ∧
      openedFds (mapBuffers buffer i (List.replicate count {})).2.1 = [] ∧
      closedFds (mapBuffers buffer i (List.replicate count {})).2.1 = [] ∧
      unmappings (mapBuffers buffer i (List.replicate count {})).2.1 = [] := by
  induction count generalizing i with
  | zero =>
    refine ⟨[], iff_of_true rfl ?_, rfl, rfl, rfl, rfl⟩
    intro hfails
    obtain ⟨k, hk, -⟩ := hfails
    exact absurd hk (Nat.not_lt_zero k)
  | succ count ih =>
    have hrest := releasable_replicate count
    rw [mapFailsFrom_succ, List.replicate_succ]
    cases hquery : (buffer i).queryBuf with
    | none =>
      have hbuffers : mapBuffers buffer i ({} :: List.replicate count {}) =
          ({} :: List.replicate count {}, [], false) := by
        simp only [mapBuffers, hquery]
      rw [hbuffers]
      refine ⟨[], iff_of_true rfl ?_, hrest, rfl, rfl, rfl⟩
      intro hfails
      rcases hfails with ⟨length, -, hsome, -⟩ | ⟨⟨hsome, -⟩, -⟩
      · rw [hquery] at hsome
        cases hsome
      · rw [hquery] at hsome
        cases hsome
    | some length =>
      cases hmap : (buffer i).mmap with
      | none =>
        have hpass : ¬ (buffer i).Passes := by
          intro hfails
          obtain ⟨-, hsome, -⟩ := hfails
          rw [hmap] at hsome
          cases hsome
        have hbuffers : mapBuffers buffer i ({} :: List.replicate count {}) =
            (⟨mapFailed, length⟩ :: List.replicate count {}, [], false) := by
          simp only [mapBuffers, hquery, hmap]
        rw [hbuffers]
        by_cases hlength : length = 0
        · refine ⟨[], iff_of_true rfl ?_, ?_, rfl, rfl, rfl⟩
          · intro hfails
            rcases hfails with ⟨length', hne, hsome, -⟩ | ⟨hpasses, -⟩
            · rw [hquery, hlength] at hsome
              exact hne (Option.some.inj hsome).symm
            · exact hpass hpasses
          · rw [releasable_cons_zero _ hlength, hrest]
            rfl
        · have hfails : (buffer i).FailsToMap := ⟨length, hlength, hquery, hmap⟩
          refine ⟨[⟨mapFailed, length⟩], iff_of_false (by simp) (not_not.mpr (Or.inl hfails)), ?_,
            rfl, rfl, rfl⟩
          rw [releasable_cons _ (show mapFailed ≠ nullptr by decide) hlength, hrest]
          rfl
      | some start =>
        have hlength : length ≠ 0 := by
          intro heq
          subst heq
          rw [(buffer i).zero_refused hquery] at hmap
          cases hmap
        have hmapped : ¬ (buffer i).FailsToMap := by
          intro hfails
          obtain ⟨_, -, -, hnone⟩ := hfails
          rw [hmap] at hnone
          cases hnone
        cases hqueue : (buffer i).queueBuf with
        | false =>
          have hbuffers : mapBuffers buffer i ({} :: List.replicate count {}) =
              (⟨start, length⟩ :: List.replicate count {},
                [.mapped start length, .queued (UInt32.ofNat i) false], false) := by
            simp only [mapBuffers, hquery, hmap, hqueue, Bool.not_false, if_true]
          rw [hbuffers]
          refine ⟨[], iff_of_true rfl ?_, ?_, rfl, rfl, rfl⟩
          · intro hfails
            rcases hfails with hfails | ⟨⟨-, -, htrue⟩, -⟩
            · exact hmapped hfails
            · rw [hqueue] at htrue
              cases htrue
          · rw [releasable_cons _ start.property.1 hlength, hrest]
            rfl
        | true =>
          have hpasses : (buffer i).Passes := by
            refine ⟨?_, ?_, hqueue⟩
            · rw [hquery]
              rfl
            · rw [hmap]
              rfl
          have hbuffers : mapBuffers buffer i ({} :: List.replicate count {}) =
              (⟨start, length⟩ :: (mapBuffers buffer (i + 1) (List.replicate count {})).1,
                .mapped start length :: .queued (UInt32.ofNat i) true ::
                  (mapBuffers buffer (i + 1) (List.replicate count {})).2.1,
                (mapBuffers buffer (i + 1) (List.replicate count {})).2.2) := by
            simp only [mapBuffers, hquery, hmap, hqueue, Bool.not_true, Bool.false_eq_true,
              if_false]
          obtain ⟨failed, hfailed, hreleasable, hopened, hclosed, hunmapped⟩ := ih (i + 1)
          rw [hbuffers]
          refine ⟨failed, ?_, ?_, hopened, hclosed, hunmapped⟩
          · rw [hfailed, or_iff_right hmapped, and_iff_right hpasses]
          · rw [releasable_cons _ start.property.1 hlength, hreleasable]
            rfl

/-- A closed device: what was taken was given back, and beside it `failed` was unmapped. -/
structure Closed (failed : List Buffer) (calls : List SystemCall) (cam : Webcam) : Prop where
  fd : cam.fd = -1
  bufs : cam.bufs = []
  descriptors : closedFds calls = openedFds calls
  regions : unmappings calls = mappings calls ++ failed

/-- An open device: nothing was given back yet, and shutdown will release what was mapped and beside
it `failed`. -/
structure Open (failed : List Buffer) (calls : List SystemCall) (cam : Webcam) : Prop where
  fd : 0 ≤ cam.fd
  opened : openedFds calls = [cam.fd]
  closed : closedFds calls = []
  unmapped : unmappings calls = []
  held : releasable cam.bufs = mappings calls ++ failed

/-- A way out of start-up between `open` and the mapping loop. -/
theorem open_of_early {cam : Webcam} (hbufs : cam.bufs = []) (fd : Nat) (fmt : PixFormat) :
    Open [] [.opened fd] { cam with fd := fd, fmt := fmt } := by
  refine ⟨Int.natCast_nonneg fd, rfl, rfl, rfl, ?_⟩
  show releasable cam.bufs = []
  rw [hbufs]
  rfl

/-- **What start-up leaves** on a device that has no buffers: a closed device, or an open one for
which shutdown will release one entry too many if a mapping failed. -/
theorem startupWebcam_spec {cam : Webcam} (hbufs : cam.bufs = []) (args : StartupArgs)
    (answers : StartupAnswers) :
    ∃ failed, (failed = [] ↔ ¬ MapFails args answers) ∧
      (Closed failed (startupWebcam cam args answers).1.calls (startupWebcam cam args answers).2 ∨
        Open failed (startupWebcam cam args answers).1.calls
          (startupWebcam cam args answers).2) := by
  cases hopen : answers.openDevice with
  | none =>
    have hresult : startupWebcam cam args answers =
        ({ ret := some false }, { cam with fd := -1 }) := by
      simp only [startupWebcam, hopen]
    have hfails : ¬ MapFails args answers := by
      intro hfails
      obtain ⟨hsome, -⟩ := hfails
      rw [hopen] at hsome
      cases hsome
    rw [hresult]
    exact ⟨[], iff_of_true rfl hfails, Or.inl ⟨rfl, hbufs, rfl, rfl⟩⟩
  | some fd =>
    cases hget : answers.getFormat with
    | none =>
      have hresult : startupWebcam cam args answers =
          ({ ret := some false, calls := [.opened fd] }, { cam with fd := fd, fmt := {} }) := by
        simp only [startupWebcam, hopen, hget]
      have hfails : ¬ MapFails args answers := by
        intro hfails
        obtain ⟨-, hsome, -⟩ := hfails
        rw [hget] at hsome
        cases hsome
      rw [hresult]
      exact ⟨[], iff_of_true rfl hfails, Or.inr (open_of_early hbufs fd {})⟩
    | some found =>
      cases hrequest : answers.requestBuffers args.bufferCount with
      | none =>
        have hresult : startupWebcam cam args answers =
            ({ ret := some false, calls := [.opened fd] },
              { cam with fd := fd, fmt := answers.setFormat (requestedFormat args found) }) := by
          simp only [startupWebcam, hopen, hget, hrequest]
        have hfails : ¬ MapFails args answers := by
          intro hfails
          obtain ⟨-, -, count, hsome, -⟩ := hfails
          rw [hrequest] at hsome
          cases hsome
        rw [hresult]
        exact ⟨[], iff_of_true rfl hfails, Or.inr (open_of_early hbufs fd _)⟩
      | some count =>
        by_cases hfew : count < 2
        · have hresult : startupWebcam cam args answers =
              ({ ret := some false, calls := [.opened fd] },
                { cam with fd := fd, fmt := answers.setFormat (requestedFormat args found) }) := by
            simp only [startupWebcam, hopen, hget, hrequest, if_pos hfew]
          have hfails : ¬ MapFails args answers := by
            intro hfails
            obtain ⟨-, -, count', hsome, hmany, -⟩ := hfails
            rw [hrequest] at hsome
            cases hsome
            exact hmany hfew
          rw [hresult]
          exact ⟨[], iff_of_true rfl hfails, Or.inr (open_of_early hbufs fd _)⟩
        · obtain ⟨failed, hfailed, hreleasable, hopened, hclosed, hunmapped⟩ :=
            mapBuffers_spec answers.buffer 0 count.toNat
          have hresult : startupWebcam cam args answers =
              ({ ret := some ((mapBuffers answers.buffer 0
                    (List.replicate count.toNat {})).2.2 && answers.streamOn)
                 calls := [.opened fd] ++
                  (mapBuffers answers.buffer 0 (List.replicate count.toNat {})).2.1 },
                ⟨fd, answers.setFormat (requestedFormat args found),
                  (mapBuffers answers.buffer 0 (List.replicate count.toNat {})).1⟩) := by
            simp only [startupWebcam, hopen, hget, hrequest, if_neg hfew, hbufs, resize_nil]
          have hfails : MapFails args answers ↔ MapFailsFrom answers.buffer 0 count.toNat := by
            constructor
            · intro hfails
              obtain ⟨-, -, count', hsome, -, hfrom⟩ := hfails
              rw [hrequest] at hsome
              cases hsome
              exact hfrom
            · intro hfrom
              refine ⟨?_, ?_, count, hrequest, hfew, hfrom⟩
              · rw [hopen]
                rfl
              · rw [hget]
                rfl
          rw [hresult]
          refine ⟨failed, by rw [hfailed, hfails], Or.inr ⟨Int.natCast_nonneg fd, ?_, hclosed,
            hunmapped, hreleasable⟩⟩
          exact congrArg (List.cons (fd : Int)) hopened

/-! ### The other two functions -/

/-- Calls that move frame buffers only. -/
def MovesFramesOnly (calls : List SystemCall) : Prop :=
  openedFds calls = [] ∧ closedFds calls = [] ∧ mappings calls = [] ∧ unmappings calls = []

/-- A snapshot moves frame buffers only, and if it returns it has given back the buffer it took. -/
theorem takeSnapshot_spec (conv : ColourFunction) (cam : Webcam) (answers : SnapshotAnswers) :
    (takeSnapshot conv cam answers).2 = cam ∧
      MovesFramesOnly (takeSnapshot conv cam answers).1.calls ∧
      ∀ index, .dequeued index ∈ (takeSnapshot conv cam answers).1.calls →
        (takeSnapshot conv cam answers).1.ret ≠ none →
        queuedIndices (takeSnapshot conv cam answers).1.calls = [index] := by
  by_cases hfd : cam.fd < 0
  · have hresult : takeSnapshot conv cam answers = ({ ret := some false }, cam) := if_pos hfd
    rw [hresult]
    exact ⟨rfl, ⟨rfl, rfl, rfl, rfl⟩, by simp⟩
  · cases hdequeue : answers.dequeue with
    | none =>
      have hresult : takeSnapshot conv cam answers = ({ ret := some false }, cam) := by
        simp only [takeSnapshot, if_neg hfd, hdequeue]
      rw [hresult]
      exact ⟨rfl, ⟨rfl, rfl, rfl, rfl⟩, by simp⟩
    | some frame =>
      cases hsave : (saveFrame conv cam.fmt answers).1 with
      | none =>
        have hresult : takeSnapshot conv cam answers =
            ({ ret := none, calls := [.dequeued frame.1]
               frame := (saveFrame conv cam.fmt answers).2 }, cam) := by
          simp only [takeSnapshot, if_neg hfd, hdequeue, hsave]
        rw [hresult]
        exact ⟨rfl, ⟨rfl, rfl, rfl, rfl⟩, fun _ _ hret => absurd rfl hret⟩
      | some ok =>
        have hresult : takeSnapshot conv cam answers =
            ({ ret := some ok, calls := [.dequeued frame.1, .queued frame.1 answers.requeue]
               frame := (saveFrame conv cam.fmt answers).2 }, cam) := by
          simp only [takeSnapshot, if_neg hfd, hdequeue, hsave]
        rw [hresult]
        refine ⟨rfl, ⟨rfl, rfl, rfl, rfl⟩, fun index hindex _ => ?_⟩
        have heq : index = frame.1 := by simpa using hindex
        rw [heq]
        rfl

/-- What shutdown gives back for the entries it releases. -/
theorem unmappings_released (bufs : List Buffer) :
    unmappings (bufs.map fun b => .unmapped b.start b.length) = bufs := by
  induction bufs with
  | nil => rfl
  | cons b bufs ih => exact congrArg (List.cons b) ih

theorem unmapped_only (bufs : List Buffer) :
    openedFds (bufs.map fun b => .unmapped b.start b.length) = [] ∧
      closedFds (bufs.map fun b => .unmapped b.start b.length) = [] ∧
      mappings (bufs.map fun b => .unmapped b.start b.length) = [] := by
  induction bufs with
  | nil => exact ⟨rfl, rfl, rfl⟩
  | cons b bufs ih => exact ih

/-- Moving frame buffers leaves a closed device closed. -/
theorem Closed.append {failed : List Buffer} {calls more : List SystemCall} {cam : Webcam}
    (closed : Closed failed calls cam) (frames : MovesFramesOnly more) :
    Closed failed (calls ++ more) cam := by
  obtain ⟨hopened, hclosed, hmapped, hunmapped⟩ := frames
  refine ⟨closed.fd, closed.bufs, ?_, ?_⟩
  · rw [closedFds_append, openedFds_append, hclosed, hopened, closed.descriptors]
  · rw [unmappings_append, mappings_append, hunmapped, hmapped, List.append_nil, List.append_nil,
      closed.regions]

/-- Moving frame buffers leaves an open device open. -/
theorem Open.append {failed : List Buffer} {calls more : List SystemCall} {cam : Webcam}
    (isOpen : Open failed calls cam) (frames : MovesFramesOnly more) :
    Open failed (calls ++ more) cam := by
  obtain ⟨hopened, hclosed, hmapped, hunmapped⟩ := frames
  refine ⟨isOpen.fd, ?_, ?_, ?_, ?_⟩
  · rw [openedFds_append, hopened, List.append_nil, isOpen.opened]
  · rw [closedFds_append, hclosed, List.append_nil, isOpen.closed]
  · rw [unmappings_append, hunmapped, List.append_nil, isOpen.unmapped]
  · rw [mappings_append, hmapped, List.append_nil, isOpen.held]

/-- **Shutdown closes an open device.** -/
theorem Open.shutdown {failed : List Buffer} {calls : List SystemCall} {cam : Webcam}
    (isOpen : Open failed calls cam) :
    Closed failed (calls ++ (shutdownWebcam cam).1.calls) (shutdownWebcam cam).2 := by
  have hfd : ¬ cam.fd < 0 := Int.not_lt.mpr isOpen.fd
  have hresult : shutdownWebcam cam =
      ({ ret := some true
         calls := (releasable cam.bufs).map (fun b => .unmapped b.start b.length) ++
          [.closed cam.fd] },
        { cam with bufs := [], fd := -1 }) := if_neg hfd
  obtain ⟨hopened, hclosed, hmapped⟩ := unmapped_only (releasable cam.bufs)
  rw [hresult]
  refine ⟨rfl, rfl, ?_, ?_⟩
  · rw [closedFds_append, closedFds_append, openedFds_append, openedFds_append, hopened, hclosed,
      isOpen.closed, isOpen.opened]
    rfl
  · rw [unmappings_append, unmappings_append, mappings_append, mappings_append, hmapped,
      unmappings_released, isOpen.unmapped, isOpen.held]
    simp [unmappings, mappings]

/-- Shutdown leaves a closed device alone. -/
theorem Closed.shutdown {failed : List Buffer} {calls : List SystemCall} {cam : Webcam}
    (closed : Closed failed calls cam) :
    Closed failed (calls ++ (shutdownWebcam cam).1.calls) (shutdownWebcam cam).2 := by
  have hfd : cam.fd < 0 := by
    rw [closed.fd]
    decide
  have hresult : shutdownWebcam cam = ({ ret := some true }, cam) := if_pos hfd
  rw [hresult]
  exact closed.append ⟨rfl, rfl, rfl, rfl⟩

/-! ### Every run -/

/-- The device is opened only while it is closed. -/
def startsClosed (_ : List CamEvent) (cam : Webcam) : CamStep → Prop
  | .startup _ _ => cam.fd < 0
  | _ => True

/-- The calls since the last start-up account for the device, up to an entry that is released
although its mapping failed. -/
def CamInvariant (hist : List CamEvent) (cam : Webcam) : Prop :=
  ∃ failed, (failed = [] ↔ ¬ LastStartupFails (hist.map Event.input)) ∧
    (Closed failed (callsSince hist) cam ∨ Open failed (callsSince hist) cam)

variable (conv : ColourFunction)

theorem lastStartupFails_startup (steps : List CamStep) (args : StartupArgs)
    (answers : StartupAnswers) :
    LastStartupFails (steps ++ [.startup args answers]) ↔ MapFails args answers := by
  have hlast : lastStartup (steps ++ [.startup args answers]) = some (args, answers) := by
    rw [lastStartup, lastValue_snoc]
    rfl
  constructor
  · intro hfails
    obtain ⟨args', answers', hsome, hfails⟩ := hfails
    rw [hlast] at hsome
    cases hsome
    exact hfails
  · intro hfails
    exact ⟨args, answers, hlast, hfails⟩

theorem callsSince_startup (hist : List CamEvent) (cam : Webcam) (args : StartupArgs)
    (answers : StartupAnswers) :
    callsSince (hist ++ [(webcamRun conv).event cam (.startup args answers)]) =
      (startupWebcam cam args answers).1.calls := by
  rw [callsSince, List.foldl_append]
  rfl

/-- A step that is no start-up keeps the last one, and adds its calls. -/
theorem callsSince_other (hist : List CamEvent) (cam : Webcam) (step : CamStep)
    (hstep : ∀ args answers, step ≠ .startup args answers) :
    callsSince (hist ++ [(webcamRun conv).event cam step]) =
        callsSince hist ++ ((webcamRun conv).step cam step).1.calls ∧
      (LastStartupFails ((hist ++ [(webcamRun conv).event cam step]).map Event.input) ↔
        LastStartupFails (hist.map Event.input)) := by
  have hlast : lastStartup ((hist ++ [(webcamRun conv).event cam step]).map Event.input) =
      lastStartup (hist.map Event.input) := by
    rw [List.map_append, List.map_singleton, Machine.event_input, lastStartup, lastValue_snoc]
    cases step with
    | startup args answers => exact absurd rfl (hstep args answers)
    | takeSnapshot answers => rfl
    | shutdown => rfl
  refine ⟨?_, by rw [LastStartupFails, hlast, LastStartupFails]⟩
  rw [callsSince, List.foldl_append]
  cases step with
  | startup args answers => exact absurd rfl (hstep args answers)
  | takeSnapshot answers => rfl
  | shutdown => rfl

theorem camInvariant_step (hist : List CamEvent) (cam : Webcam) (step : CamStep)
    (starts : startsClosed hist cam step) (inv : CamInvariant hist cam) :
    CamInvariant (hist ++ [(webcamRun conv).event cam step])
      ((webcamRun conv).step cam step).2 := by
  obtain ⟨failed, hfailed, hdevice⟩ := inv
  cases step with
  | startup args answers =>
    have hbufs : cam.bufs = [] := by
      rcases hdevice with closed | isOpen
      · exact closed.bufs
      · exact absurd isOpen.fd (Int.not_le.mpr starts)
    obtain ⟨failed', hfailed', hdevice'⟩ := startupWebcam_spec hbufs args answers
    refine ⟨failed', ?_, ?_⟩
    · rw [List.map_append, List.map_singleton, Machine.event_input, lastStartupFails_startup]
      exact hfailed'
    · rw [callsSince_startup]
      exact hdevice'
  | takeSnapshot answers =>
    obtain ⟨hcalls, hlast⟩ := callsSince_other conv hist cam (.takeSnapshot answers)
      (fun _ _ heq => by cases heq)
    obtain ⟨hcam, hframes, -⟩ := takeSnapshot_spec conv cam answers
    refine ⟨failed, by rw [hlast]; exact hfailed, ?_⟩
    rw [hcalls]
    show Closed _ _ (takeSnapshot conv cam answers).2 ∨ Open _ _ (takeSnapshot conv cam answers).2
    rw [hcam]
    exact hdevice.imp (fun closed => closed.append hframes) fun isOpen => isOpen.append hframes
  | shutdown =>
    obtain ⟨hcalls, hlast⟩ := callsSince_other conv hist cam .shutdown
      (fun _ _ heq => by cases heq)
    refine ⟨failed, by rw [hlast]; exact hfailed, Or.inl ?_⟩
    rw [hcalls]
    exact hdevice.elim Closed.shutdown Open.shutdown

/-- **The run invariant.** -/
theorem cam_invariant (steps : List CamStep)
    (starts : (webcamRun conv).Lawful startsClosed {} steps) :
    CamInvariant ((webcamRun conv).trace {} steps) ((webcamRun conv).final {} steps) := by
  refine Machine.lawful_induction ?_ (camInvariant_step conv) steps starts
  refine ⟨[], iff_of_true rfl ?_, Or.inl ⟨rfl, rfl, rfl, rfl⟩⟩
  intro hfails
  obtain ⟨args, answers, hsome, -⟩ := hfails
  cases hsome

/-- After each shutdown the descriptor that the last start-up opened is closed, once, the regions
that it mapped are unmapped, each once with its own length and nothing else, and the `Webcam` is
empty; and each snapshot that took a frame buffer and returned has given it back, once. -/
def ResourcesBalanced (steps : List CamStep) : Prop :=
  (∀ pre post, steps = pre ++ .shutdown :: post →
    let calls := callsSince ((webcamRun conv).trace {} (pre ++ [.shutdown]))
    let cam := (webcamRun conv).final {} (pre ++ [.shutdown])
    closedFds calls = openedFds calls ∧ unmappings calls = mappings calls ∧ cam.bufs = [] ∧
      cam.fd = -1) ∧
  ∀ pre answers post, steps = pre ++ .takeSnapshot answers :: post →
    let answer := (takeSnapshot conv ((webcamRun conv).final {} pre) answers).1
    ∀ index, .dequeued index ∈ answer.calls → answer.ret ≠ none →
      queuedIndices answer.calls = [index]

/-- **When resources are balanced.**  In every run in which the device is opened only while it is
closed, whatever the kernel answers, resources are balanced if and only if no shutdown follows a
start-up that got as far as an `mmap` of a length other than zero that failed. -/
theorem balanced_iff (steps : List CamStep)
    (starts : (webcamRun conv).Lawful startsClosed {} steps) :
    ResourcesBalanced conv steps ↔
      ∀ pre post, steps = pre ++ .shutdown :: post → ¬ LastStartupFails pre := by
  -- what holds after a shutdown, whether or not a mapping failed
  have hshutdown : ∀ pre post, steps = pre ++ .shutdown :: post →
      ∃ failed, (failed = [] ↔ ¬ LastStartupFails pre) ∧
        Closed failed (callsSince ((webcamRun conv).trace {} (pre ++ [.shutdown])))
          ((webcamRun conv).final {} (pre ++ [.shutdown])) := by
    intro pre post hsteps
    rw [hsteps] at starts
    obtain ⟨failed, hfailed, hdevice⟩ := cam_invariant conv pre (Machine.lawful_split starts).1
    rw [Machine.trace_inputs] at hfailed
    rw [Machine.trace_snoc, Machine.final_snoc]
    obtain ⟨hcalls, -⟩ := callsSince_other conv ((webcamRun conv).trace {} pre)
      ((webcamRun conv).final {} pre) .shutdown (fun _ _ heq => by cases heq)
    rw [hcalls]
    exact ⟨failed, hfailed, hdevice.elim Closed.shutdown Open.shutdown⟩
  constructor
  · intro balanced pre post hsteps
    obtain ⟨failed, hfailed, closed⟩ := hshutdown pre post hsteps
    obtain ⟨-, hregions, -⟩ := balanced.1 pre post hsteps
    exact hfailed.mp (List.self_eq_append_right.mp (hregions.symm.trans closed.regions))
  · intro hfails
    refine ⟨fun pre post hsteps => ?_,
      fun pre answers _ _ => (takeSnapshot_spec conv _ answers).2.2⟩
    obtain ⟨failed, hfailed, closed⟩ := hshutdown pre post hsteps
    have hregions := closed.regions
    rw [hfailed.mpr (hfails pre post hsteps), List.append_nil] at hregions
    exact ⟨closed.descriptors, hregions, closed.bufs, closed.fd⟩

/-! ### Two runs -/

/-- A buffer for a `640` by `480` YUYV frame that passes. -/
def mappedBuffer (i : Nat) : BufferAnswers where
  queryBuf := some 614400
  mmap := some ⟨if i = 0 then 0x100000 else 0x200000, by split <;> decide⟩
  queueBuf := true
  zero_refused h := by cases h

/-- A buffer whose mapping fails. -/
def unmappedBuffer : BufferAnswers where
  queryBuf := some 614400
  mmap := none
  queueBuf := true
  zero_refused _ := rfl

/-- A kernel that grants two buffers, and answers for each as given. -/
def twoBuffers (buffer : Nat → BufferAnswers) : StartupAnswers where
  openDevice := some 3
  getFormat := some ⟨640, 480, pixFmtYuyv⟩
  setFormat := id
  requestBuffers _ := some 2
  buffer := buffer
  streamOn := true

/-- Start-up with two mapped buffers, then shutdown. -/
def mappedRun : List CamStep := [.startup {} (twoBuffers mappedBuffer), .shutdown]

/-- Where both buffers are mapped resources are balanced. -/
theorem balanced_mappedRun : ResourcesBalanced convMillionths mappedRun := by
  have starts : (webcamRun convMillionths).Lawful startsClosed {} mappedRun :=
    ⟨(by decide : (-1 : Int) < 0), trivial, trivial⟩
  refine (balanced_iff convMillionths mappedRun starts).mpr ?_
  intro pre post hsteps hfails
  obtain ⟨args, answers, hlast, -, -, count, -, -, k, -, -, length, -, -, hnone⟩ := hfails
  rcases pre with _ | ⟨first, _ | ⟨second, pre⟩⟩
  · cases hlast
  · obtain ⟨hfirst, -⟩ := List.cons.inj hsteps
    rw [← hfirst] at hlast
    cases hlast
    cases hnone
  · simp [mappedRun] at hsteps

/-- **A failed mapping is unmapped.**  The second of two mappings fails, start-up returns, and
shutdown unmaps `MAP_FAILED`. -/
theorem unmaps_failed_mapping :
    let buffer := fun i => if i = 0 then mappedBuffer 0 else unmappedBuffer
    let steps : List CamStep := [.startup {} (twoBuffers buffer), .shutdown]
    (webcamRun convMillionths).Lawful startsClosed {} steps ∧
      unmappings (callsSince ((webcamRun convMillionths).trace {} steps)) =
        [⟨0x100000, 614400⟩, ⟨mapFailed, 614400⟩] ∧
      ¬ ResourcesBalanced convMillionths steps := by
  intro buffer steps
  refine ⟨⟨(by decide : (-1 : Int) < 0), trivial, trivial⟩, by decide, fun balanced => ?_⟩
  obtain ⟨-, hregions, -⟩ := balanced.1 [.startup {} (twoBuffers buffer)] [] rfl
  exact absurd hregions (by decide)

end V4l2

end FsfwFromZero
