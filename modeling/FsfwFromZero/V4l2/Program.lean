import FsfwFromZero.V4l2.BufferOwnership
import FsfwFromZero.V4l2.SavedFile

/-!
# The program from start to exit

`getFramerate` and `main` of `test/webcam.cpp`: start up, ask the driver for its frame rate, take
one snapshot into a file whose name says what it holds, shut down.  A start-up that fails ends the
program at once, without `shutdownWebcam`.

* `getFramerate` — the frame rate as the fraction it is computed from;
* `main` over what the kernel answers, `ProgramResult` — the exit code, the system calls and the
  file;
* `mapFails_of_ret` — a start-up that succeeded mapped every buffer;
* `main_balanced_iff` — **everything taken is given back exactly if the device did not open or the
  program ends with exit code `0`**.
-/

namespace FsfwFromZero

open Lib

namespace V4l2

/-! ### `getFramerate` -/

/-- The fraction of `timeperframe`'s denominator and numerator, `none` where the source returns
`false`.  `getParm` is the numerator and the denominator that `VIDIOC_G_PARM` answers. -/
def getFramerate (cam : Webcam) (getParm : Option (UInt32 × UInt32)) : Option (UInt32 × UInt32) :=
  if cam.fd < 0 then none
  else
    match getParm with
    | none => none
    | some (numerator, denominator) =>
        if numerator = 0 ∨ denominator = 0 then none else some (denominator, numerator)

/-! ### `main` -/

/-- What the kernel answers to the program. -/
structure ProgramAnswers where
  startup : StartupAnswers
  /-- `VIDIOC_G_PARM`. -/
  getParm : Option (UInt32 × UInt32)
  snapshot : SnapshotAnswers

/-- A run of the program. -/
structure ProgramResult where
  /-- `none` where the program does not come back from the conversion. -/
  exitCode : Option Nat
  calls : List SystemCall
  fps : Option (UInt32 × UInt32) := none
  /-- The name of the file that was written, and the bytes handed to it. -/
  file : Option (String × List UInt8) := none
  deriving Repr, DecidableEq

/-- The name of the file. -/
def outputName (fmt : PixFormat) : String :=
  if fmt.pixelformat = pixFmtMjpeg ∨ fmt.pixelformat = pixFmtJpeg then "frame.jpg" else "frame.ppm"

/-- The bytes `takeSnapshot` writes. -/
def snapshotFile (conv : ColourFunction) (cam : Webcam) (answers : SnapshotAnswers) :
    Option (List UInt8) :=
  if cam.fd < 0 then none
  else
    match answers.dequeue with
    | none => none
    | some (_, bytesused) => savedFile conv cam.fmt answers bytesused

/-- The arguments that `main` gives to `startupWebcam`. -/
def mainArgs : StartupArgs where
  width := 640
  height := 480
  pixfmtFourcc := 0
  bufferCount := 4

def main (conv : ColourFunction) (answers : ProgramAnswers) : ProgramResult :=
  let (started, cam) := startupWebcam {} mainArgs answers.startup
  if started.ret ≠ some true then { exitCode := some 1, calls := started.calls }
  else
    let fps := getFramerate cam answers.getParm
    let out := outputName cam.fmt
    let file := (snapshotFile conv cam answers.snapshot).map fun bytes => (out, bytes)
    let (taken, cam) := takeSnapshot conv cam answers.snapshot
    match taken.ret with
    | none =>
        { exitCode := none, calls := started.calls ++ taken.calls, fps := fps, file := file }
    | some _ =>
        let (shut, _) := shutdownWebcam cam
        { exitCode := some 0, calls := started.calls ++ taken.calls ++ shut.calls, fps := fps
          file := file }

/-! ### What was taken and given back -/

/-- Every descriptor opened is closed and every region mapped is unmapped, each once and in order,
and nothing else. -/
def Balanced (calls : List SystemCall) : Prop :=
  closedFds calls = openedFds calls ∧ unmappings calls = mappings calls

/-- A mapping loop that goes through met no buffer that fails to map. -/
theorem mapBuffers_passes (buffer : Nat → BufferAnswers) (i : Nat) (entries : List Buffer)
    (through : (mapBuffers buffer i entries).2.2 = true) :
    ¬ MapFailsFrom buffer i entries.length := by
  induction entries generalizing i with
  | nil =>
    intro hfails
    obtain ⟨k, hk, -⟩ := hfails
    exact absurd hk (Nat.not_lt_zero k)
  | cons entry rest ih =>
    rw [List.length_cons, mapFailsFrom_succ]
    rintro (⟨length, -, hquery, hmap⟩ | ⟨hpasses, hfails⟩)
    · simp only [mapBuffers, hquery, hmap] at through
      cases through
    · obtain ⟨hquery, hmap, hqueue⟩ := hpasses
      obtain ⟨length, hlength⟩ := Option.isSome_iff_exists.mp hquery
      obtain ⟨start, hstart⟩ := Option.isSome_iff_exists.mp hmap
      simp only [mapBuffers, hlength, hstart, hqueue, Bool.not_true, Bool.false_eq_true,
        if_false] at through
      exact ih (i + 1) through hfails

/-- A start-up that succeeded opened the device and mapped every buffer. -/
theorem mapFails_of_ret {cam : Webcam} {args : StartupArgs} {answers : StartupAnswers}
    (hret : (startupWebcam cam args answers).1.ret = some true) : ¬ MapFails args answers := by
  intro hfails
  obtain ⟨hopen, hget, count, hcount, hmany, hfrom⟩ := hfails
  obtain ⟨fd, hfd⟩ := Option.isSome_iff_exists.mp hopen
  obtain ⟨found, hfound⟩ := Option.isSome_iff_exists.mp hget
  simp only [startupWebcam, hfd, hfound, hcount, if_neg hmany] at hret
  have hthrough := (Bool.and_eq_true_iff.mp (Option.some.inj hret)).1
  refine mapBuffers_passes answers.buffer 0 _ hthrough ?_
  rw [resize_length]
  exact hfrom

/-- Start-up opens a descriptor exactly if `open` succeeds. -/
theorem openedFds_startup (answers : StartupAnswers) :
    (openedFds (startupWebcam {} mainArgs answers).1.calls = [] ↔ answers.openDevice = none) ∧
      closedFds (startupWebcam {} mainArgs answers).1.calls = [] ∧
      unmappings (startupWebcam {} mainArgs answers).1.calls = [] := by
  cases hopen : answers.openDevice with
  | none =>
    have hcalls : (startupWebcam {} mainArgs answers).1.calls = [] := by
      simp only [startupWebcam, hopen]
    rw [hcalls]
    exact ⟨iff_of_true rfl rfl, rfl, rfl⟩
  | some fd =>
    have hfd : 0 ≤ (startupWebcam {} mainArgs answers).2.fd := by
      simp only [startupWebcam, hopen]
      split
      · exact Int.natCast_nonneg fd
      · split
        · exact Int.natCast_nonneg fd
        · split <;> exact Int.natCast_nonneg fd
    have hbufs : ({} : Webcam).bufs = [] := rfl
    obtain ⟨failed, -, closed | isOpen⟩ := startupWebcam_spec hbufs mainArgs answers
    · rw [closed.fd] at hfd
      exact absurd hfd (by decide)
    · rw [isOpen.opened, isOpen.closed, isOpen.unmapped]
      exact ⟨iff_of_false (List.cons_ne_nil _ _) (by simp), rfl, rfl⟩

/-- **When everything is given back.**  Whatever the kernel answers, the program has closed every
descriptor and unmapped every region it took if and only if the device did not open, or it ends with
exit code `0`. -/
theorem main_balanced_iff (conv : ColourFunction) (answers : ProgramAnswers) :
    Balanced (main conv answers).calls ↔
      answers.startup.openDevice = none ∨ (main conv answers).exitCode = some 0 := by
  obtain ⟨hopened, hclosed, hunmapped⟩ := openedFds_startup answers.startup
  by_cases hret : (startupWebcam {} mainArgs answers.startup).1.ret = some true
  · -- started: the device is open, and shutdown releases what was mapped
    have hopen : answers.startup.openDevice ≠ none := by
      intro hnone
      simp only [startupWebcam, hnone] at hret
      cases hret
    have hbufs : ({} : Webcam).bufs = [] := rfl
    obtain ⟨failed, hfailed, hdevice⟩ := startupWebcam_spec hbufs mainArgs answers.startup
    rw [hfailed.mpr (mapFails_of_ret hret)] at hdevice
    have isOpen : Open [] (startupWebcam {} mainArgs answers.startup).1.calls
        (startupWebcam {} mainArgs answers.startup).2 := by
      refine hdevice.resolve_left fun closed => hopen (hopened.mp ?_)
      rw [← closed.descriptors, hclosed]
    obtain ⟨hcam, hframes, -⟩ :=
      takeSnapshot_spec conv (startupWebcam {} mainArgs answers.startup).2 answers.snapshot
    have isOpen' := isOpen.append hframes
    rw [or_iff_right hopen]
    cases htaken : (takeSnapshot conv (startupWebcam {} mainArgs answers.startup).2
        answers.snapshot).1.ret with
    | none =>
      have hmain : (main conv answers).exitCode = none ∧ (main conv answers).calls =
          (startupWebcam {} mainArgs answers.startup).1.calls ++
            (takeSnapshot conv (startupWebcam {} mainArgs answers.startup).2
              answers.snapshot).1.calls := by
        simp only [main, hret, htaken, ne_eq, not_true_eq_false, if_false, and_self]
      rw [hmain.1, hmain.2, Balanced, isOpen'.closed, isOpen'.opened]
      exact iff_of_false (fun hbalanced => absurd hbalanced.1 (by simp)) (by simp)
    | some ok =>
      have hmain : (main conv answers).exitCode = some 0 ∧ (main conv answers).calls =
          (startupWebcam {} mainArgs answers.startup).1.calls ++
            (takeSnapshot conv (startupWebcam {} mainArgs answers.startup).2
              answers.snapshot).1.calls ++
            (shutdownWebcam (startupWebcam {} mainArgs answers.startup).2).1.calls := by
        simp only [main, hret, htaken, hcam, ne_eq, not_true_eq_false, if_false, and_self]
      have closed := isOpen'.shutdown
      have hregions := closed.regions
      rw [List.append_nil] at hregions
      rw [hmain.1, hmain.2]
      exact iff_of_true ⟨closed.descriptors, hregions⟩ rfl
  · have hmain : (main conv answers).exitCode = some 1 ∧
        (main conv answers).calls = (startupWebcam {} mainArgs answers.startup).1.calls := by
      simp only [main, ne_eq, hret, not_false_eq_true, if_true, and_self]
    rw [hmain.1, hmain.2, or_iff_left (by simp)]
    -- not started: nothing is given back
    rw [Balanced, hclosed, hunmapped, ← hopened]
    refine ⟨fun hbalanced => hbalanced.1.symm, fun hnone => ⟨hnone.symm, ?_⟩⟩
    have hcalls : (startupWebcam {} mainArgs answers.startup).1.calls = [] := by
      simp only [startupWebcam, hopened.mp hnone]
    rw [hcalls]
    rfl

end V4l2

end FsfwFromZero
