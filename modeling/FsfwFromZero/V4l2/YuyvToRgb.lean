import FsfwFromZero.Lib.Loop
import Mathlib.Data.List.Nodup

/-!
# Converting a YUYV frame

`yuyv_to_rgb` of `test/webcam.cpp`.  A frame in YUYV format has two pixels in four bytes, which
share their chroma samples; the function walks over it two pixels at a time, with one pointer into
the frame and one into the picture.

* `FitsInt`, `intMul` — products of `int`s, which have no value where they overflow;
* `Conversion` — the loop's variables with the positions read and written so far, `convertPair` —
  the loop's body, `yuyvToRgb` — the function, for any colour function `conv`;
* `afterPairs`, `convertPair_afterPairs` — **the loop invariant**: the variables in closed form;
* `yuyvToRgb_eq` — **the function in closed form**;
* `yuyvToRgb_pixels` — **each pixel is computed from its own samples**.
-/

namespace FsfwFromZero

open Lib

namespace V4l2

/-! ### The function -/

/-- The values of an `int`. -/
def FitsInt (x : Int) : Prop := -2147483648 ≤ x ∧ x ≤ 2147483647

instance (x : Int) : Decidable (FitsInt x) := inferInstanceAs (Decidable (_ ∧ _))

/-- `a * b` for `int`s, `none` where it overflows and the program has no defined behaviour. -/
def intMul (a b : Int) : Option Int := if FitsInt (a * b) then some (a * b) else none

/-- The colour function: luma and the two chroma samples to red, green and blue. -/
abbrev ColourFunction := Int → Int → Int → Int × Int × Int

def clamp (x : Int) : UInt8 := UInt8.ofNat (min 255 (max 0 x)).toNat

/-- The number that a byte stands for. -/
def level (byte : UInt8) : Int := byte.toNat

/-- A clamped value is the nearest of the numbers that a byte stands for. -/
theorem level_clamp (x : Int) : level (clamp x) = min 255 (max 0 x) := by
  have hsmall : (min 255 (max 0 x)).toNat < 2 ^ 8 := by omega
  rw [level, clamp, UInt8.toNat_ofNat', Nat.mod_eq_of_lt hsmall]
  omega

/-- The variables of the loop, the pointers by their distance from where they started, and what was
read and written, oldest first. -/
structure Conversion where
  i : Int
  inPos : Nat
  outPos : Nat
  reads : List Nat
  writes : List (Nat × UInt8)
  deriving Repr, DecidableEq

/-- What the writes leave at a position. -/
def Conversion.output (c : Conversion) (pos : Nat) : Option UInt8 :=
  (c.writes.reverse.find? fun write => write.1 = pos).map Prod.snd

section Convert

variable (conv : ColourFunction) (input : List UInt8)

/-- The bytes of one pixel, from position `pos` on. -/
def pixelBytes (pos : Nat) (rgb : Int × Int × Int) : List (Nat × UInt8) :=
  [(pos, clamp rgb.1), (pos + 1, clamp rgb.2.1), (pos + 2, clamp rgb.2.2)]

/-- The body of the loop. -/
def convertPair (s : Conversion) : Conversion :=
  let sample (k : Nat) : Int := (input.getD (s.inPos + k) 0).toNat
  let y0 := sample 0
  let u := sample 1 - 128
  let y1 := sample 2
  let v := sample 3 - 128
  { i := s.i + 2
    inPos := s.inPos + 4
    outPos := s.outPos + 6
    reads := s.reads ++ [s.inPos, s.inPos + 1, s.inPos + 2, s.inPos + 3]
    writes :=
      s.writes ++ (pixelBytes s.outPos (conv y0 u v) ++ pixelBytes (s.outPos + 3) (conv y1 u v)) }

/-- One round of the loop, `none` where its test fails. -/
def convertRound (bound : Int) (s : Conversion) : Option Conversion :=
  if s.i < bound then some (convertPair conv input s) else none

/-- The counter starts at `0` and rises, so that the loop makes at most `w * h + 1` tests. -/
def yuyvToRgb (w h : Int) : Option Conversion :=
  (intMul w h).bind fun bound =>
    loop (convertRound conv input bound) (bound.toNat + 1) ⟨0, 0, 0, [], []⟩

/-! ### The loop in closed form -/

/-- The colours of pixel `k`: its own luma, and the chroma of its pair. -/
def pixel (k : Nat) : Int × Int × Int :=
  conv (input.getD (2 * k) 0).toNat ((input.getD (4 * (k / 2) + 1) 0).toNat - 128)
    ((input.getD (4 * (k / 2) + 3) 0).toNat - 128)

/-- The bytes of the first `count` pixels. -/
def pixelWrites (count : Nat) : List (Nat × UInt8) :=
  (List.range count).flatMap fun k => pixelBytes (3 * k) (pixel conv input k)

/-- The loop's variables after `n` rounds. -/
def afterPairs (n : Nat) : Conversion where
  i := 2 * n
  inPos := 4 * n
  outPos := 6 * n
  reads := List.range (4 * n)
  writes := pixelWrites conv input (2 * n)

/-- **One round leads from closed form to closed form.** -/
theorem convertPair_afterPairs (n : Nat) :
    convertPair conv input (afterPairs conv input n) = afterPairs conv input (n + 1) := by
  have hreads : List.range (4 * (n + 1)) =
      List.range (4 * n) ++ [4 * n, 4 * n + 1, 4 * n + 2, 4 * n + 3] := by
    rw [show 4 * (n + 1) = 4 * n + 4 by omega, List.range_add]
    rfl
  have hwrites : pixelWrites conv input (2 * (n + 1)) = pixelWrites conv input (2 * n) ++
      (pixelBytes (6 * n) (pixel conv input (2 * n)) ++
        pixelBytes (6 * n + 3) (pixel conv input (2 * n + 1))) := by
    rw [show 2 * (n + 1) = 2 * n + 1 + 1 by omega, pixelWrites, List.range_succ, List.range_succ,
      List.flatMap_append, List.flatMap_append, List.append_assoc, pixelWrites,
      show 6 * n = 3 * (2 * n) by omega, show 3 * (2 * n) + 3 = 3 * (2 * n + 1) by omega]
    simp
  have heven : pixel conv input (2 * n) =
      conv (input.getD (4 * n) 0).toNat ((input.getD (4 * n + 1) 0).toNat - 128)
        ((input.getD (4 * n + 3) 0).toNat - 128) := by
    rw [pixel, show 2 * (2 * n) = 4 * n by omega, show 2 * n / 2 = n by omega]
  have hodd : pixel conv input (2 * n + 1) =
      conv (input.getD (4 * n + 2) 0).toNat ((input.getD (4 * n + 1) 0).toNat - 128)
        ((input.getD (4 * n + 3) 0).toNat - 128) := by
    rw [pixel, show 2 * (2 * n + 1) = 4 * n + 2 by omega, show (2 * n + 1) / 2 = n by omega]
  have hi : (2 * n : Int) + 2 = 2 * (n + 1 : Nat) := by omega
  show Conversion.mk _ _ _ _ _ = Conversion.mk _ _ _ _ _
  rw [hreads, hwrites, heven, hodd]
  exact congrArg (fun i => Conversion.mk i _ _ _ _) hi

/-- No more rounds were made than there are pairs, the last one counted full. -/
def PairsDone (bound : Int) (s : Conversion) : Prop :=
  ∃ n, s = afterPairs conv input n ∧ n ≤ (bound.toNat + 1) / 2

theorem convertRound_done (bound : Int) (s s' : Conversion) (done : PairsDone conv input bound s)
    (hround : convertRound conv input bound s = some s') :
    PairsDone conv input bound s' ∧ (bound - s'.i).toNat < (bound - s.i).toNat := by
  obtain ⟨n, rfl, hn⟩ := done
  have htest : (2 * n : Int) < bound := by
    by_contra hnot
    have hnone : convertRound conv input bound (afterPairs conv input n) = none := if_neg hnot
    rw [hnone] at hround
    cases hround
  have hnext : s' = afterPairs conv input (n + 1) := by
    have hsome : convertRound conv input bound (afterPairs conv input n) =
        some (convertPair conv input (afterPairs conv input n)) := if_pos htest
    rw [hsome, convertPair_afterPairs] at hround
    exact (Option.some.inj hround).symm
  refine ⟨⟨n + 1, hnext, by omega⟩, ?_⟩
  rw [hnext]
  show (bound - 2 * (n + 1 : Nat)).toNat < (bound - 2 * (n : Nat)).toNat
  omega

/-- **The function in closed form**: a round for every two pixels, the last one counted full. -/
theorem yuyvToRgb_eq {w h : Int} (fits : FitsInt (w * h)) :
    yuyvToRgb conv input w h = some (afterPairs conv input (((w * h).toNat + 1) / 2)) := by
  have hmul : intMul w h = some (w * h) := if_pos fits
  rw [yuyvToRgb, hmul, Option.bind_some]
  generalize w * h = bound
  have hstart : PairsDone conv input bound ⟨0, 0, 0, [], []⟩ := ⟨0, rfl, Nat.zero_le _⟩
  have henough : (bound - 0).toNat < bound.toNat + 1 := by omega
  obtain ⟨r, hloop, ⟨n, rfl, hn⟩, hend⟩ :=
    loop_spec (convertRound_done conv input bound) (bound.toNat + 1) _ hstart henough
  have hdone : ¬ (2 * n : Int) < bound := by
    intro htest
    have hsome : convertRound conv input bound (afterPairs conv input n) =
        some (convertPair conv input (afterPairs conv input n)) := if_pos htest
    rw [hsome] at hend
    cases hend
  have hcount : n = (bound.toNat + 1) / 2 := by omega
  rw [hloop, ← hcount]

/-! ### The picture -/

/-- The positions of the first `count` pixels, in order. -/
theorem pixelWrites_positions (count : Nat) :
    (pixelWrites conv input count).map Prod.fst = List.range (3 * count) := by
  induction count with
  | zero => rfl
  | succ count ih =>
    rw [pixelWrites, List.range_succ, List.flatMap_append, List.map_append, ← pixelWrites, ih,
      show 3 * (count + 1) = 3 * count + 3 by omega, List.range_add]
    rfl

/-- What is written once stays. -/
theorem output_of_mem {c : Conversion} (once : (c.writes.map Prod.fst).Nodup) {pos : Nat}
    {byte : UInt8} (hmem : (pos, byte) ∈ c.writes) : c.output pos = some byte := by
  have hfound : (c.writes.reverse.find? fun write => write.1 = pos).isSome = true := by
    rw [List.find?_isSome]
    exact ⟨(pos, byte), List.mem_reverse.mpr hmem, by simp⟩
  obtain ⟨write, hwrite⟩ := Option.isSome_iff_exists.mp hfound
  have hpos : write.1 = pos := by simpa using List.find?_some hwrite
  have hin : write ∈ c.writes := List.mem_reverse.mp (List.mem_of_find?_eq_some hwrite)
  have heq : write = (pos, byte) := List.inj_on_of_nodup_map once hin hmem hpos
  rw [Conversion.output, hwrite, heq]
  rfl

/-- What lies at the three positions of a pixel. -/
theorem output_pixel {n k : Nat} (hk : k < 2 * n) :
    (afterPairs conv input n).output (3 * k) = some (clamp (pixel conv input k).1) ∧
      (afterPairs conv input n).output (3 * k + 1) = some (clamp (pixel conv input k).2.1) ∧
      (afterPairs conv input n).output (3 * k + 2) = some (clamp (pixel conv input k).2.2) := by
  have once : ((afterPairs conv input n).writes.map Prod.fst).Nodup := by
    show ((pixelWrites conv input (2 * n)).map Prod.fst).Nodup
    rw [pixelWrites_positions]
    exact List.nodup_range
  have hpixel : ∀ write ∈ pixelBytes (3 * k) (pixel conv input k),
      write ∈ (afterPairs conv input n).writes := by
    intro write hwrite
    exact List.mem_flatMap.mpr ⟨k, List.mem_range.mpr hk, hwrite⟩
  refine ⟨output_of_mem once (hpixel _ ?_), output_of_mem once (hpixel _ ?_),
    output_of_mem once (hpixel _ ?_)⟩ <;> simp [pixelBytes]

/-- A pixel does not depend on the samples of others. -/
theorem pixel_set {j k : Nat} (byte : UInt8) (luma : j % 2 = 0 → k ≠ j / 2)
    (chroma : j % 2 = 1 → k / 2 ≠ j / 4) :
    pixel conv (input.set j byte) k = pixel conv input k := by
  have hother : ∀ p, j ≠ p → (input.set j byte).getD p 0 = input.getD p 0 := by
    intro p hp
    simp [List.getD_eq_getElem?_getD, List.getElem?_set_ne hp]
  have hy : j ≠ 2 * k := fun heq => luma (by omega) (by omega)
  have hu : j ≠ 4 * (k / 2) + 1 := fun heq => chroma (by omega) (by omega)
  have hv : j ≠ 4 * (k / 2) + 3 := fun heq => chroma (by omega) (by omega)
  rw [pixel, pixel, hother _ hy, hother _ hu, hother _ hv]

end Convert

/-- **Each pixel is computed from its own samples.**  For a frame with an even number of pixels, the
conversion reads only the frame's samples and writes each byte of the picture once; the bytes of
pixel `k` are the colours of its luma and of the chroma of its pair, with those below `0` raised to
`0` and those above `255` lowered to `255`.  A change of one input byte changes no pixel but the one
whose luma it is, or the two whose chroma it is. -/
theorem yuyvToRgb_pixels (conv : ColourFunction) (w h : Int) (hw : 0 ≤ w) (hh : 0 ≤ h)
    (even : w * h % 2 = 0) (fits : 3 * w * h < 2147483648) (input : List UInt8)
    (samples : 2 * w * h ≤ input.length) :
    ∃ r, yuyvToRgb conv input w h = some r ∧
      r.writes.map Prod.fst = List.range (3 * w * h).toNat ∧
      (∀ pos ∈ r.reads, pos < input.length) ∧
      (∀ k < (w * h).toNat,
        (r.output (3 * k)).map level = some (min 255 (max 0 (pixel conv input k).1)) ∧
        (r.output (3 * k + 1)).map level = some (min 255 (max 0 (pixel conv input k).2.1)) ∧
        (r.output (3 * k + 2)).map level = some (min 255 (max 0 (pixel conv input k).2.2))) ∧
      ∀ j byte, ∃ r', yuyvToRgb conv (input.set j byte) w h = some r' ∧
        ∀ k < (w * h).toNat, (j % 2 = 0 → k ≠ j / 2) → (j % 2 = 1 → k / 2 ≠ j / 4) →
          ∀ c < 3, r'.output (3 * k + c) = r.output (3 * k + c) := by
  rw [Int.mul_assoc] at fits samples ⊢
  have hnonneg : 0 ≤ w * h := Int.mul_nonneg hw hh
  have hint : FitsInt (w * h) := ⟨by omega, by omega⟩
  have hpairs : 2 * (((w * h).toNat + 1) / 2) = (w * h).toNat := by omega
  refine ⟨_, yuyvToRgb_eq conv input hint, ?_, ?_, ?_, fun j byte => ?_⟩
  · show (pixelWrites conv input (2 * _)).map Prod.fst = _
    rw [pixelWrites_positions, hpairs]
    congr 1
    omega
  · intro pos hpos
    have hlt : pos < 4 * (((w * h).toNat + 1) / 2) := List.mem_range.mp hpos
    omega
  · intro k hk
    obtain ⟨hred, hgreen, hblue⟩ := output_pixel conv input (hpairs ▸ hk)
    rw [hred, hgreen, hblue, ← level_clamp, ← level_clamp, ← level_clamp]
    exact ⟨rfl, rfl, rfl⟩
  · refine ⟨_, yuyvToRgb_eq conv (input.set j byte) hint, fun k hk luma chroma c hc => ?_⟩
    obtain ⟨hred, hgreen, hblue⟩ := output_pixel conv input (hpairs ▸ hk)
    obtain ⟨hred', hgreen', hblue'⟩ := output_pixel conv (input.set j byte) (hpairs ▸ hk)
    rw [pixel_set conv input byte luma chroma] at hred' hgreen' hblue'
    match c, hc with
    | 0, _ => exact hred'.trans hred.symm
    | 1, _ => exact hgreen'.trans hgreen.symm
    | 2, _ => exact hblue'.trans hblue.symm

/-- The colour function with its factors in millionths, rounded towards zero as the casts do. -/
def convMillionths : ColourFunction := fun y u v =>
  ((1000000 * y + 1402000 * v).tdiv 1000000,
    (1000000 * y - 344136 * u - 714136 * v).tdiv 1000000,
    (1000000 * y + 1772000 * u).tdiv 1000000)

/-- Two pixels with neutral chroma are grey. -/
theorem yuyvToRgb_pixels_grey :
    ∃ r, yuyvToRgb convMillionths [16, 128, 235, 128] 2 1 = some r ∧
      r.writes.map Prod.fst = [0, 1, 2, 3, 4, 5] ∧ (r.output 0).map level = some 16 ∧
      (r.output 3).map level = some 235 := by
  obtain ⟨r, hr, hwrites, -, hpixels, -⟩ :=
    yuyvToRgb_pixels convMillionths 2 1 (by decide) (by decide) (by decide) (by decide)
      [16, 128, 235, 128] (by decide)
  exact ⟨r, hr, hwrites.trans (by decide), (hpixels 0 (by decide)).1.trans (by decide),
    (hpixels 1 (by decide)).1.trans (by decide)⟩

end V4l2

end FsfwFromZero
