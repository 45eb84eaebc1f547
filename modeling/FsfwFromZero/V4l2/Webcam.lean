import FsfwFromZero.Lib.Machine
import FsfwFromZero.V4l2.YuyvToRgb

/-!
# The standalone capture program

`startupWebcam`, `takeSnapshot` and `shutdownWebcam` of `test/webcam.cpp`, over what the kernel
answers.  Each call of `open`, `ioctl` and `mmap` may fail on its own; a function records the system
calls it makes that take or give back something: descriptors, mappings and frame buffers.

* `SystemCall` — these calls, `StartupAnswers`, `SnapshotAnswers` — how the kernel answers;
* `startupWebcam` over `mapBuffers`, its mapping loop; `takeSnapshot` over `saveFrame` and
  `convertFrame`; `shutdownWebcam` — the source's functions;
* `webcamRun : Machine` — any calls of the three in any order.
-/

namespace FsfwFromZero

open Lib

namespace V4l2

/-! ### The data -/

/-- A pointer into the address space. -/
abbrev Address := Nat

def nullptr : Address := 0

/-- `MAP_FAILED`, that is `(void *) -1`. -/
def mapFailed : Address := 18446744073709551615

/-- A mapped buffer, by where it starts and its length. -/
structure Buffer where
  start : Address := nullptr
  length : Nat := 0
  deriving Repr, DecidableEq

/-- The part of a `v4l2_format` the program reads. -/
structure PixFormat where
  width : UInt32 := 0
  height : UInt32 := 0
  pixelformat : UInt32 := 0
  deriving Repr, DecidableEq

/-- `V4L2_PIX_FMT_MJPEG`. -/
def pixFmtMjpeg : UInt32 := 0x47504a4d

/-- `V4L2_PIX_FMT_JPEG`. -/
def pixFmtJpeg : UInt32 := 0x4745504a

/-- `V4L2_PIX_FMT_YUYV`. -/
def pixFmtYuyv : UInt32 := 0x56595559

structure Webcam where
  fd : Int := -1
  fmt : PixFormat := {}
  bufs : List Buffer := []
  deriving Repr, DecidableEq

/-- A system call that takes or gives back a resource. -/
inductive SystemCall
  | opened (fd : Int)
  | closed (fd : Int)
  | mapped (start : Address) (length : Nat)
  | unmapped (start : Address) (length : Nat)
  | dequeued (index : UInt32)
  /-- `VIDIOC_QBUF`, and whether the driver took the buffer. -/
  | queued (index : UInt32) (accepted : Bool)
  deriving Repr, DecidableEq

/-- What a conversion of a frame came to. -/
inductive FrameResult
  /-- A product of `int`s overflowed: the program has no defined behaviour. -/
  | overflow
  /-- The vector was asked for a negative size and threw. -/
  | lengthError
  /-- The frame was converted into a vector of this size. -/
  | converted (size : Nat) (conversion : Conversion)
  deriving Repr, DecidableEq

/-- What a function hands back: its result, `none` where it does not return, the system calls it
made, oldest first, and the conversion it made. -/
structure CamAnswer where
  ret : Option Bool
  calls : List SystemCall := []
  frame : Option FrameResult := none
  deriving Repr, DecidableEq

/-! ### The kernel's answers -/

/-- Where a successful `mmap` put its mapping. -/
abbrev MappedAt := { start : Address // start ≠ nullptr ∧ start ≠ mapFailed }

/-- The answers to the calls made for one buffer. -/
structure BufferAnswers where
  /-- `VIDIOC_QUERYBUF`, with the buffer's length. -/
  queryBuf : Option Nat
  mmap : Option MappedAt
  /-- `VIDIOC_QBUF`. -/
  queueBuf : Bool
  /-- A mapping of length zero is refused. -/
  zero_refused : queryBuf = some 0 → mmap = none

/-- What `startupWebcam` is called with. -/
structure StartupArgs where
  width : UInt32 := 640
  height : UInt32 := 480
  pixfmtFourcc : UInt32 := 0
  bufferCount : UInt32 := 4
  deriving Repr, DecidableEq

/-- The answers to the calls `startupWebcam` makes; `none` and `false` are failures. -/
structure StartupAnswers where
  openDevice : Option Nat
  /-- `VIDIOC_G_FMT`. -/
  getFormat : Option PixFormat
  /-- `VIDIOC_S_FMT`, by what it makes of the format it is given. -/
  setFormat : PixFormat → PixFormat
  /-- `VIDIOC_REQBUFS`, by the number of buffers it grants. -/
  requestBuffers : UInt32 → Option UInt32
  buffer : Nat → BufferAnswers
  /-- `VIDIOC_STREAMON`. -/
  streamOn : Bool

/-- The answers to the calls `takeSnapshot` makes. -/
structure SnapshotAnswers where
  /-- `VIDIOC_DQBUF`, with the buffer's index and its number of valid bytes. -/
  dequeue : Option (UInt32 × UInt32)
  /-- What lies in that buffer. -/
  frame : List UInt8
  fopen : Bool
  /-- The `VIDIOC_QBUF` at the end, whose result the program does not look at. -/
  requeue : Bool
  deriving Repr, DecidableEq

/-! ### `startupWebcam` -/

/-- `bufs.resize(count)`. -/
def resize (bufs : List Buffer) (count : Nat) : List Buffer :=
  bufs.take count ++ List.replicate (count - bufs.length) ({} : Buffer)

/-- The mapping loop from buffer `i` on, over the entries of the table from there on: the entries it
leaves, its calls, and whether it went through. -/
def mapBuffers (buffer : Nat → BufferAnswers) :
    Nat → List Buffer → List Buffer × List SystemCall × Bool
  | _, [] => ([], [], true)
  | i, entry :: rest =>
      match (buffer i).queryBuf with
      | none => (entry :: rest, [], false)
      | some length =>
          match (buffer i).mmap with
          | none => (⟨mapFailed, length⟩ :: rest, [], false)
          | some start =>
              if !(buffer i).queueBuf then
                (⟨start, length⟩ :: rest,
                  [.mapped start length, .queued (UInt32.ofNat i) false], false)
              else
                let (bufs, calls, ok) := mapBuffers buffer (i + 1) rest
                (⟨start, length⟩ :: bufs,
                  .mapped start length :: .queued (UInt32.ofNat i) true :: calls, ok)

/-- The format the program asks for, from the one it found. -/
def requestedFormat (args : StartupArgs) (found : PixFormat) : PixFormat where
  width := args.width
  height := args.height
  pixelformat := if args.pixfmtFourcc ≠ 0 then args.pixfmtFourcc else found.pixelformat

def startupWebcam (cam : Webcam) (args : StartupArgs) (answers : StartupAnswers) :
    CamAnswer × Webcam :=
  match answers.openDevice with
  | none => ({ ret := some false }, { cam with fd := -1 })
  | some fd =>
      let calls := [SystemCall.opened fd]
      match answers.getFormat with
      | none => ({ ret := some false, calls := calls }, { cam with fd := fd, fmt := {} })
      | some found =>
          let cam := { cam with fd := fd, fmt := answers.setFormat (requestedFormat args found) }
          match answers.requestBuffers args.bufferCount with
          | none => ({ ret := some false, calls := calls }, cam)
          | some count =>
              if count < 2 then ({ ret := some false, calls := calls }, cam)
              else
                let (bufs, mapCalls, mapped) :=
                  mapBuffers answers.buffer 0 (resize cam.bufs count.toNat)
                ({ ret := some (mapped && answers.streamOn), calls := calls ++ mapCalls },
                  { cam with bufs := bufs })

/-! ### `takeSnapshot` -/

/-- An unsigned number stored in an `int`. -/
def asInt (x : UInt32) : Int :=
  if x.toNat < 2147483648 then x.toNat else (x.toNat : Int) - 4294967296

/-- The vector `rgb` and the conversion into it. -/
def convertFrame (conv : ColourFunction) (frame : List UInt8) (W H : Int) : FrameResult :=
  match (intMul 3 W).bind fun rows => intMul rows H with
  | none => .overflow
  | some size =>
      if size < 0 then .lengthError
      else
        match yuyvToRgb conv frame W H with
        | none => .overflow
        | some conversion => .converted size.toNat conversion

/-- Saving a frame: the value of `ok`, `none` where the function does not return, and the conversion
made. -/
def saveFrame (conv : ColourFunction) (fmt : PixFormat) (answers : SnapshotAnswers) :
    Option Bool × Option FrameResult :=
  if fmt.pixelformat = pixFmtMjpeg ∨ fmt.pixelformat = pixFmtJpeg then (some answers.fopen, none)
  else if fmt.pixelformat = pixFmtYuyv then
    let frame := convertFrame conv answers.frame (asInt fmt.width) (asInt fmt.height)
    match frame with
    | .converted _ _ => (some answers.fopen, some frame)
    | _ => (none, some frame)
  else (some false, none)

def takeSnapshot (conv : ColourFunction) (cam : Webcam) (answers : SnapshotAnswers) :
    CamAnswer × Webcam :=
  if cam.fd < 0 then ({ ret := some false }, cam)
  else
    match answers.dequeue with
    | none => ({ ret := some false }, cam)
    | some (index, _) =>
        let (ok, frame) := saveFrame conv cam.fmt answers
        match ok with
        | none => ({ ret := none, calls := [.dequeued index], frame := frame }, cam)
        | some ok =>
            ({ ret := some ok, calls := [.dequeued index, .queued index answers.requeue]
               frame := frame }, cam)

/-! ### `shutdownWebcam` -/

/-- The entries that `shutdownWebcam` unmaps. -/
def releasable (bufs : List Buffer) : List Buffer :=
  bufs.filter fun b => b.start ≠ nullptr && b.length ≠ 0

def shutdownWebcam (cam : Webcam) : CamAnswer × Webcam :=
  if cam.fd < 0 then ({ ret := some true }, cam)
  else
    ({ ret := some true
       calls :=
        (releasable cam.bufs).map (fun b => .unmapped b.start b.length) ++ [.closed cam.fd] },
      { cam with bufs := [], fd := -1 })

/-! ### Runs -/

/-- A call of one of the three functions. -/
inductive CamStep
  | startup (args : StartupArgs) (answers : StartupAnswers)
  | takeSnapshot (answers : SnapshotAnswers)
  | shutdown

abbrev CamEvent := Event Webcam CamStep CamAnswer

/-- The program on one `Webcam`. -/
def webcamRun (conv : ColourFunction) : Machine Webcam CamStep CamAnswer where
  step cam
    | .startup args answers => startupWebcam cam args answers
    | .takeSnapshot answers => takeSnapshot conv cam answers
    | .shutdown => shutdownWebcam cam

end V4l2

end FsfwFromZero
