import FsfwFromZero.Lib.Ppm
import FsfwFromZero.V4l2.FrameBounds

/-!
# The file a snapshot leaves

`takeSnapshot` writes a JPEG frame as it is, and a YUYV frame as a portable pixmap, with the width
and the height as `int`s in its header.

* `savedFile` — the bytes handed to the file, `savedFile_isSome` — there are some exactly when
  `takeSnapshot` returns `true`;
* `rgbBytes_eq` — the vector holds the pixels in order, each once;
* `saved_picture` — **a saved frame reads back as the converted picture exactly if its dimensions
  are `int`s**.
-/

namespace FsfwFromZero

open Lib

namespace V4l2

/-- The vector `rgb`, which starts out zero. -/
def rgbBytes (size : Nat) (conversion : Conversion) : List UInt8 :=
  (List.range size).map fun pos => (conversion.output pos).getD 0

/-- The bytes handed to the file, `none` where none is written. -/
def savedFile (conv : ColourFunction) (fmt : PixFormat) (answers : SnapshotAnswers)
    (bytesused : UInt32) : Option (List UInt8) :=
  if fmt.pixelformat = pixFmtMjpeg ∨ fmt.pixelformat = pixFmtJpeg then
    if answers.fopen then some (answers.frame.take bytesused.toNat) else none
  else if fmt.pixelformat = pixFmtYuyv then
    match convertFrame conv answers.frame (asInt fmt.width) (asInt fmt.height) with
    | .converted size conversion =>
        if answers.fopen then
          some (printPpm (asInt fmt.width) (asInt fmt.height) (rgbBytes size conversion))
        else none
    | .overflow => none
    | .lengthError => none
  else none

/-- A file is written exactly when `takeSnapshot` returns `true`. -/
theorem savedFile_isSome (conv : ColourFunction) {cam : Webcam} {answers : SnapshotAnswers}
    {index bytesused : UInt32} (hopen : 0 ≤ cam.fd)
    (hdequeue : answers.dequeue = some (index, bytesused)) :
    (takeSnapshot conv cam answers).1.ret = some true ↔
      (savedFile conv cam.fmt answers bytesused).isSome = true := by
  have hfd : ¬ cam.fd < 0 := Int.not_lt.mpr hopen
  have hret : (takeSnapshot conv cam answers).1.ret = (saveFrame conv cam.fmt answers).1 := by
    simp only [takeSnapshot, if_neg hfd, hdequeue]
    cases (saveFrame conv cam.fmt answers).1 <;> rfl
  rw [hret]
  by_cases hjpeg : cam.fmt.pixelformat = pixFmtMjpeg ∨ cam.fmt.pixelformat = pixFmtJpeg
  · simp only [saveFrame, savedFile, if_pos hjpeg]
    cases answers.fopen <;> simp
  · by_cases hyuyv : cam.fmt.pixelformat = pixFmtYuyv
    · simp only [saveFrame, savedFile, if_neg hjpeg, if_pos hyuyv]
      cases convertFrame conv answers.frame (asInt cam.fmt.width) (asInt cam.fmt.height) with
      | overflow => simp
      | lengthError => simp
      | converted size conversion => cases answers.fopen <;> simp
    · simp [saveFrame, savedFile, if_neg hjpeg, if_neg hyuyv]

/-! ### The samples -/

/-- What was written once, in order, is what the vector holds. -/
theorem rgbBytes_of_writes {size : Nat} {conversion : Conversion}
    (hwrites : conversion.writes.map Prod.fst = List.range size) :
    rgbBytes size conversion = conversion.writes.map Prod.snd := by
  have hlength : conversion.writes.length = size := by
    rw [← List.length_map Prod.fst, hwrites, List.length_range]
  have once : (conversion.writes.map Prod.fst).Nodup := by
    rw [hwrites]
    exact List.nodup_range
  refine List.ext_getElem (by rw [rgbBytes, List.length_map, List.length_range, List.length_map,
    hlength]) fun pos hpos hpos' => ?_
  have hin : pos < conversion.writes.length := by rwa [List.length_map] at hpos'
  have hfst : conversion.writes[pos].1 = pos := by
    have hget : (conversion.writes.map Prod.fst)[pos]? = (List.range size)[pos]? := by rw [hwrites]
    rw [List.getElem?_map, List.getElem?_eq_getElem hin, List.getElem?_range (hlength ▸ hin)] at hget
    exact Option.some.inj hget
  have hmem : (pos, conversion.writes[pos].2) ∈ conversion.writes := by
    have heq : (pos, conversion.writes[pos].2) = conversion.writes[pos] :=
      Prod.ext hfst.symm rfl
    rw [heq]
    exact List.getElem_mem hin
  rw [List.getElem_map]
  simp only [rgbBytes, List.getElem_map, List.getElem_range, output_of_mem once hmem,
    Option.getD_some]

/-- The samples of the first `count` pixels. -/
def samples (conv : ColourFunction) (frame : List UInt8) (count : Nat) : List UInt8 :=
  (pixelWrites conv frame count).map Prod.snd

/-- **The vector holds the pixels in order**, for an even number of them. -/
theorem rgbBytes_eq (conv : ColourFunction) (frame : List UInt8) (n : Nat) :
    rgbBytes (3 * (2 * n)) (afterPairs conv frame n) = samples conv frame (2 * n) :=
  rgbBytes_of_writes (pixelWrites_positions conv frame (2 * n))

theorem samples_length (conv : ColourFunction) (frame : List UInt8) (count : Nat) :
    (samples conv frame count).length = 3 * count := by
  rw [samples, List.length_map, ← List.length_map Prod.fst, pixelWrites_positions,
    List.length_range]

/-- The three samples of a pixel. -/
theorem samples_pixel (conv : ColourFunction) (frame : List UInt8) {count k : Nat}
    (hk : k < count) :
    (samples conv frame count)[3 * k]? = some (clamp (pixel conv frame k).1) ∧
      (samples conv frame count)[3 * k + 1]? = some (clamp (pixel conv frame k).2.1) ∧
      (samples conv frame count)[3 * k + 2]? = some (clamp (pixel conv frame k).2.2) := by
  induction count with
  | zero => exact absurd hk (Nat.not_lt_zero k)
  | succ count ih =>
    have hsnoc : samples conv frame (count + 1) = samples conv frame count ++
        [clamp (pixel conv frame count).1, clamp (pixel conv frame count).2.1,
          clamp (pixel conv frame count).2.2] := by
      rw [samples, pixelWrites, List.range_succ, List.flatMap_append, List.map_append,
        ← pixelWrites, ← samples]
      rfl
    have hlength := samples_length conv frame count
    rw [hsnoc]
    rcases Nat.lt_succ_iff_lt_or_eq.mp hk with hlt | heq
    · obtain ⟨hred, hgreen, hblue⟩ := ih hlt
      refine ⟨?_, ?_, ?_⟩
      · rwa [List.getElem?_append_left (by omega)]
      · rwa [List.getElem?_append_left (by omega)]
      · rwa [List.getElem?_append_left (by omega)]
    · subst heq
      refine ⟨?_, ?_, ?_⟩
      · rw [List.getElem?_append_right (by omega), hlength, Nat.sub_self]
        rfl
      · rw [List.getElem?_append_right (by omega), hlength, Nat.add_sub_cancel_left]
        rfl
      · rw [List.getElem?_append_right (by omega), hlength, Nat.add_sub_cancel_left]
        rfl

/-! ### Reading the file back -/

/-- A dimension is kept by the cast exactly if it is an `int`. -/
theorem asInt_nonneg_iff (x : UInt32) : 0 ≤ asInt x ↔ x.toNat < 2147483648 := by
  have hlt := x.toNat_lt
  unfold asInt
  split <;> omega

theorem asInt_toNat {x : UInt32} (hx : 0 ≤ asInt x) : (asInt x).toNat = x.toNat := by
  have hsmall := (asInt_nonneg_iff x).mp hx
  rw [asInt, if_pos hsmall, Int.toNat_natCast]

/-- What is saved of a YUYV frame that is converted within bounds. -/
theorem savedFile_yuyv (conv : ColourFunction) {fmt : PixFormat} {answers : SnapshotAnswers}
    {bytesused : UInt32} (hformat : fmt.pixelformat = pixFmtYuyv)
    (hbounds : Convertible (asInt fmt.width) (asInt fmt.height) bytesused.toNat)
    {bytes : List UInt8} (hsaved : savedFile conv fmt answers bytesused = some bytes) :
    bytes = printPpm (asInt fmt.width) (asInt fmt.height)
      (samples conv answers.frame (asInt fmt.width * asInt fmt.height).toNat) := by
  have hjpeg : ¬ (pixFmtYuyv = pixFmtMjpeg ∨ pixFmtYuyv = pixFmtJpeg) := by decide
  simp only [savedFile, hformat, if_neg hjpeg, if_true] at hsaved
  generalize asInt fmt.width = W at hbounds hsaved ⊢
  generalize asInt fmt.height = H at hbounds hsaved ⊢
  obtain ⟨hrow, hsize, hpixels⟩ := hbounds
  have hmul : (intMul 3 W).bind (fun rows => intMul rows H) = some (3 * W * H) := by
    simp only [intMul, if_pos hrow, Option.bind_some, if_pos hsize]
  have hassoc : 3 * W * H = 3 * (W * H) := Int.mul_assoc 3 W H
  by_cases hneg : 3 * W * H < 0
  · simp only [convertFrame, hmul, if_pos hneg] at hsaved
    cases hsaved
  · have hfits : FitsInt (W * H) := by
      obtain ⟨hlow, hhigh⟩ := hsize
      exact ⟨by omega, by omega⟩
    have heven : (W * H).toNat = 2 * (((W * H).toNat + 1) / 2) := by
      by_cases hpos : 0 < W * H
      · have := (hpixels hpos).1
        omega
      · omega
    have hcount : (3 * W * H).toNat = 3 * (2 * (((W * H).toNat + 1) / 2)) := by omega
    simp only [convertFrame, hmul, if_neg hneg, yuyvToRgb_eq conv answers.frame hfits, hcount,
      rgbBytes_eq] at hsaved
    rw [heven]
    split at hsaved
    · exact (Option.some.inj hsaved).symm
    · cases hsaved

/-- **When a saved frame reads back.**  Let a snapshot of an open device with a YUYV format, of a
frame that is converted within bounds, return `true`.  The file it wrote is a pixmap if and only if
both dimensions are below `2^31`; the pixmap then has these dimensions, and its samples are the
colours of the frame's pixels, in order, clamped to what lies between `0` and `255`. -/
theorem saved_picture (conv : ColourFunction) (cam : Webcam) (answers : SnapshotAnswers)
    (index bytesused : UInt32) (hopen : 0 ≤ cam.fd) (hformat : cam.fmt.pixelformat = pixFmtYuyv)
    (hdequeue : answers.dequeue = some (index, bytesused))
    (hbounds : Convertible (asInt cam.fmt.width) (asInt cam.fmt.height) bytesused.toNat)
    (hret : (takeSnapshot conv cam answers).1.ret = some true) :
    ∃ bytes, savedFile conv cam.fmt answers bytesused = some bytes ∧
      ((readPpm bytes).isSome = true ↔
        cam.fmt.width.toNat < 2147483648 ∧ cam.fmt.height.toNat < 2147483648) ∧
      ∀ picture, readPpm bytes = some picture →
        picture.width = cam.fmt.width.toNat ∧ picture.height = cam.fmt.height.toNat ∧
        picture.maxval = 255 ∧ picture.raster.length = 3 * picture.width * picture.height ∧
        ∀ k < picture.width * picture.height,
          (picture.raster[3 * k]?).map level =
            some (min 255 (max 0 (pixel conv answers.frame k).1)) ∧
          (picture.raster[3 * k + 1]?).map level =
            some (min 255 (max 0 (pixel conv answers.frame k).2.1)) ∧
          (picture.raster[3 * k + 2]?).map level =
            some (min 255 (max 0 (pixel conv answers.frame k).2.2)) := by
  obtain ⟨bytes, hbytes⟩ :=
    Option.isSome_iff_exists.mp ((savedFile_isSome conv hopen hdequeue).mp hret)
  have hfile := savedFile_yuyv conv hformat hbounds hbytes
  -- with dimensions that are kept, there are as many samples as the header says
  have hproduct : 0 ≤ asInt cam.fmt.width → 0 ≤ asInt cam.fmt.height →
      (asInt cam.fmt.width * asInt cam.fmt.height).toNat =
        (asInt cam.fmt.width).toNat * (asInt cam.fmt.height).toNat :=
    fun hw hh => Int.toNat_mul hw hh
  have hraster : 0 ≤ asInt cam.fmt.width → 0 ≤ asInt cam.fmt.height →
      (samples conv answers.frame (asInt cam.fmt.width * asInt cam.fmt.height).toNat).length =
        3 * (asInt cam.fmt.width).toNat * (asInt cam.fmt.height).toNat := by
    intro hw hh
    rw [samples_length, hproduct hw hh, Nat.mul_assoc]
  have hpixmap := readPpm_printPpm_isSome _ hraster
  rw [asInt_nonneg_iff, asInt_nonneg_iff, ← hfile] at hpixmap
  refine ⟨bytes, hbytes, hpixmap, fun picture hpicture => ?_⟩
  obtain ⟨hw, hh⟩ := hpixmap.mp (by rw [hpicture]; rfl)
  rw [← asInt_nonneg_iff] at hw hh
  rw [hfile, readPpm_printPpm _ hw hh (hraster hw hh)] at hpicture
  cases hpicture
  refine ⟨asInt_toNat hw, asInt_toNat hh, rfl, hraster hw hh, fun k hk => ?_⟩
  have hk' : k < (asInt cam.fmt.width * asInt cam.fmt.height).toNat := by
    rw [hproduct hw hh]
    exact hk
  obtain ⟨hred, hgreen, hblue⟩ := samples_pixel conv answers.frame hk'
  rw [hred, hgreen, hblue, ← level_clamp, ← level_clamp, ← level_clamp]
  exact ⟨rfl, rfl, rfl⟩

/-- Two grey pixels in the first buffer. -/
def greyPair : SnapshotAnswers := ⟨some (0, 4), [16, 128, 235, 128], true, true⟩

/-- Two grey pixels read back. -/
theorem saved_picture_grey :
    ∃ bytes picture, savedFile convMillionths (yuyvCam 2 1).fmt greyPair 4 = some bytes ∧
      readPpm bytes = some picture ∧ picture.width = 2 ∧ picture.height = 1 ∧
      (picture.raster[3]?).map level = some 235 := by
  obtain ⟨bytes, hbytes, hpixmap, hread⟩ :=
    saved_picture convMillionths (yuyvCam 2 1) greyPair 0 4 (by decide) rfl rfl
      ⟨by decide, by decide, by decide⟩ (by decide)
  obtain ⟨picture, hpicture⟩ := Option.isSome_iff_exists.mp (hpixmap.mpr (by decide))
  obtain ⟨hw, hh, -, -, hpixels⟩ := hread picture hpicture
  have hk : 1 < picture.width * picture.height := by
    rw [hw, hh]
    decide
  exact ⟨bytes, picture, hbytes, hpicture, hw, hh, (hpixels 1 hk).1.trans (by decide)⟩

end V4l2

end FsfwFromZero
