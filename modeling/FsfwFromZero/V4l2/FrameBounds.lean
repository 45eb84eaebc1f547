import FsfwFromZero.V4l2.Webcam

/-!
# Which frames are converted within their buffers

`takeSnapshot` computes the loop bound of the conversion from the active format and nothing else: it
neither looks at the number of valid bytes of the frame it dequeued, nor at whether the pixels come
in pairs, nor at whether the products fit an `int`.

* `InBounds` — the products have a value, every index read is below the number of valid bytes, and
  every index written is below the size of the vector;
* `convertFrame_inBounds_iff`, `frame_in_bounds_iff` — **exactly the frames with enough bytes, an
  even number of pixels and products that fit are converted within bounds**;
* `short_frame_out_of_bounds` — a short `640` by `480` frame is not.
-/

namespace FsfwFromZero

open Lib

namespace V4l2

/-- A conversion stays inside the valid bytes of its frame and inside its vector. -/
def InBounds (bytesused : Nat) : FrameResult → Prop
  | .overflow => False
  | .lengthError => True
  | .converted size conversion =>
      (∀ pos ∈ conversion.reads, pos < bytesused) ∧
        ∀ write ∈ conversion.writes, write.1 < size

/-- The products fit an `int`, and a frame that has pixels has an even number of them and two valid
bytes for each. -/
def Convertible (W H : Int) (bytesused : Nat) : Prop :=
  FitsInt (3 * W) ∧ FitsInt (3 * W * H) ∧
    (0 < W * H → W * H % 2 = 0 ∧ 2 * (W * H) ≤ bytesused)

/-! ### One conversion -/

theorem range_below_iff (m k : Nat) : (∀ x ∈ List.range m, x < k) ↔ m ≤ k := by
  constructor
  · intro hall
    cases m with
    | zero => exact Nat.zero_le k
    | succ m => exact hall m (by simp)
  · intro hle x hx
    exact Nat.lt_of_lt_of_le (List.mem_range.mp hx) hle

/-- The indices of a conversion after `n` rounds. -/
theorem afterPairs_inBounds (conv : ColourFunction) (frame : List UInt8) (n bytesused size : Nat) :
    InBounds bytesused (.converted size (afterPairs conv frame n)) ↔
      4 * n ≤ bytesused ∧ 6 * n ≤ size := by
  have hwrites : (∀ write ∈ pixelWrites conv frame (2 * n), write.1 < size) ↔
      ∀ pos ∈ (pixelWrites conv frame (2 * n)).map Prod.fst, pos < size := by
    simp only [List.forall_mem_map]
  show ((∀ pos ∈ List.range (4 * n), pos < bytesused) ∧
    ∀ write ∈ pixelWrites conv frame (2 * n), write.1 < size) ↔ _
  rw [hwrites, pixelWrites_positions, range_below_iff, range_below_iff,
    show 3 * (2 * n) = 6 * n by omega]

/-- **Which frames are converted within bounds.** -/
theorem convertFrame_inBounds_iff (conv : ColourFunction) (frame : List UInt8) (W H : Int)
    (bytesused : Nat) :
    InBounds bytesused (convertFrame conv frame W H) ↔ Convertible W H bytesused := by
  by_cases hrow : FitsInt (3 * W)
  · by_cases hsize : FitsInt (3 * W * H)
    · have hmul : (intMul 3 W).bind (fun rows => intMul rows H) = some (3 * W * H) := by
        simp only [intMul, if_pos hrow, Option.bind_some, if_pos hsize]
      have hassoc : 3 * W * H = 3 * (W * H) := Int.mul_assoc 3 W H
      by_cases hneg : 3 * W * H < 0
      · have hresult : convertFrame conv frame W H = .lengthError := by
          simp only [convertFrame, hmul, if_pos hneg]
        rw [hresult]
        refine iff_of_true trivial ⟨hrow, hsize, fun hpos => ?_⟩
        omega
      · have hfits : FitsInt (W * H) := by
          obtain ⟨hlow, hhigh⟩ := hsize
          exact ⟨by omega, by omega⟩
        have hresult : convertFrame conv frame W H = .converted (3 * W * H).toNat
            (afterPairs conv frame (((W * H).toNat + 1) / 2)) := by
          simp only [convertFrame, hmul, if_neg hneg, yuyvToRgb_eq conv frame hfits]
        rw [hresult, afterPairs_inBounds, Convertible, and_iff_right hrow, and_iff_right hsize,
          hassoc]
        omega
    · have hmul : (intMul 3 W).bind (fun rows => intMul rows H) = none := by
        simp only [intMul, if_pos hrow, Option.bind_some, if_neg hsize]
      have hresult : convertFrame conv frame W H = .overflow := by simp only [convertFrame, hmul]
      rw [hresult]
      exact iff_of_false id fun hconvertible => hsize hconvertible.2.1
  · have hmul : (intMul 3 W).bind (fun rows => intMul rows H) = none := by
      simp only [intMul, if_neg hrow, Option.bind_none]
    have hresult : convertFrame conv frame W H = .overflow := by simp only [convertFrame, hmul]
    rw [hresult]
    exact iff_of_false id fun hconvertible => hrow hconvertible.1

/-! ### In `takeSnapshot` -/

/-- The conversion that `takeSnapshot` makes of a dequeued YUYV frame. -/
theorem takeSnapshot_frame (conv : ColourFunction) {cam : Webcam} {answers : SnapshotAnswers}
    {index bytesused : UInt32} (hopen : 0 ≤ cam.fd) (hformat : cam.fmt.pixelformat = pixFmtYuyv)
    (hdequeue : answers.dequeue = some (index, bytesused)) :
    (takeSnapshot conv cam answers).1.frame =
      some (convertFrame conv answers.frame (asInt cam.fmt.width) (asInt cam.fmt.height)) := by
  have hfd : ¬ cam.fd < 0 := Int.not_lt.mpr hopen
  have hjpeg : ¬ (pixFmtYuyv = pixFmtMjpeg ∨ pixFmtYuyv = pixFmtJpeg) := by decide
  simp only [takeSnapshot, if_neg hfd, hdequeue, saveFrame, hformat, if_neg hjpeg, if_true]
  cases convertFrame conv answers.frame (asInt cam.fmt.width) (asInt cam.fmt.height) <;> rfl

/-- **Which frames `takeSnapshot` converts within their buffers.**  For an open device with a YUYV
format of any width and height, a dequeued frame with any number of valid bytes is converted without
overflow, reading only valid bytes and writing only inside the vector, if and only if the products
fit an `int` and, where there are pixels, their number is even and there are two valid bytes for
each. -/
theorem frame_in_bounds_iff (conv : ColourFunction) (cam : Webcam) (answers : SnapshotAnswers)
    (index bytesused : UInt32) (hopen : 0 ≤ cam.fd) (hformat : cam.fmt.pixelformat = pixFmtYuyv)
    (hdequeue : answers.dequeue = some (index, bytesused)) :
    (∃ frame, (takeSnapshot conv cam answers).1.frame = some frame ∧
      InBounds bytesused.toNat frame) ↔
      Convertible (asInt cam.fmt.width) (asInt cam.fmt.height) bytesused.toNat := by
  rw [takeSnapshot_frame conv hopen hformat hdequeue]
  constructor
  · intro hconverted
    obtain ⟨frame, hframe, hbounds⟩ := hconverted
    rw [← Option.some.inj hframe] at hbounds
    exact (convertFrame_inBounds_iff conv answers.frame _ _ _).mp hbounds
  · intro hconvertible
    exact ⟨_, rfl, (convertFrame_inBounds_iff conv answers.frame _ _ _).mpr hconvertible⟩

/-- An open device with a YUYV format. -/
def yuyvCam (width height : UInt32) : Webcam := ⟨3, ⟨width, height, pixFmtYuyv⟩, [⟨4096, 614400⟩]⟩

/-- A frame in the first buffer with this many valid bytes. -/
def dequeuedFrame (bytesused : UInt32) : SnapshotAnswers := ⟨some (0, bytesused), [], true, true⟩

/-- A full `640` by `480` frame is converted within bounds. -/
theorem full_frame_in_bounds :
    ∃ frame, (takeSnapshot convMillionths (yuyvCam 640 480) (dequeuedFrame 614400)).1.frame =
      some frame ∧ InBounds 614400 frame :=
  (frame_in_bounds_iff convMillionths (yuyvCam 640 480) (dequeuedFrame 614400) 0 614400 (by decide)
    rfl rfl).mpr ⟨⟨by decide, by decide⟩, ⟨by decide, by decide⟩, fun _ => ⟨by decide, by decide⟩⟩

/-- **A short frame is read beyond its valid bytes.**  The driver delivers `1000` bytes of a `640`
by `480` frame. -/
theorem short_frame_out_of_bounds :
    ¬ ∃ frame, (takeSnapshot convMillionths (yuyvCam 640 480) (dequeuedFrame 1000)).1.frame =
      some frame ∧ InBounds 1000 frame := by
  intro hconverted
  obtain ⟨frame, hframe, hbounds⟩ := hconverted
  have hopen : 0 ≤ (yuyvCam 640 480).fd := by decide
  have hdequeue : (dequeuedFrame 1000).dequeue = some (0, 1000) := rfl
  rw [takeSnapshot_frame convMillionths hopen rfl hdequeue] at hframe
  rw [← Option.some.inj hframe, convertFrame_inBounds_iff] at hbounds
  obtain ⟨-, -, hpixels⟩ := hbounds
  exact absurd (hpixels (by decide)).2 (by decide)

end V4l2

end FsfwFromZero
