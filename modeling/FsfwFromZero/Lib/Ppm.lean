import Mathlib.Data.Nat.Digits.Defs
import Mathlib.Tactic.Common

/-!
# Decimal numbers and portable pixmaps

A binary portable pixmap is a header in text, the magic number `P6`, the width, the height and the
largest sample, each a decimal number, and after one more white space the samples, three for each
pixel.

* `printNat`, `printInt` — a number as `%d` prints it, `readNat` — a decimal number at the head of a
  byte stream;
* `readNat_printNat` — **numbers round trip** wherever no digit follows;
* `readPpm` — a reader of pixmaps, `printPpm` — a pixmap with one white space everywhere;
* `readPpm_printPpm_isSome` — **what is printed is a pixmap exactly if no dimension is negative**,
  and `readPpm_printPpm` — it is then the pixmap that was printed.
-/

namespace FsfwFromZero.Lib

/-! ### Decimal numbers -/

/-- The digits `0` to `9`. -/
def isDigit (b : UInt8) : Bool := 48 ≤ b.toNat && b.toNat ≤ 57

/-- The character of a digit. -/
def digitByte (d : Nat) : UInt8 := UInt8.ofNat (48 + d)

def printNat (n : Nat) : List UInt8 :=
  if n = 0 then [digitByte 0] else (Nat.digits 10 n).reverse.map digitByte

def printInt (x : Int) : List UInt8 :=
  if x < 0 then 45 :: printNat x.natAbs else printNat x.toNat

/-- The number that a list of digits denotes. -/
def digitsValue (digits : List UInt8) : Nat :=
  digits.foldl (fun value b => 10 * value + (b.toNat - 48)) 0

/-- The number at the head of a stream, and what follows it. -/
def readNat (bytes : List UInt8) : Option (Nat × List UInt8) :=
  let digits := bytes.takeWhile isDigit
  if digits.isEmpty then none else some (digitsValue digits, bytes.dropWhile isDigit)

theorem digitByte_toNat {d : Nat} (hd : d < 10) : (digitByte d).toNat = 48 + d := by
  rw [digitByte, UInt8.toNat_ofNat']
  exact Nat.mod_eq_of_lt (by omega)

theorem isDigit_digitByte {d : Nat} (hd : d < 10) : isDigit (digitByte d) = true := by
  rw [isDigit, digitByte_toNat hd]
  simp only [Bool.and_eq_true, decide_eq_true_eq]
  omega

/-- A number is printed in digits. -/
theorem isDigit_printNat (n : Nat) : ∀ b ∈ printNat n, isDigit b = true := by
  intro b hb
  unfold printNat at hb
  split at hb
  · rw [List.mem_singleton.mp hb]
    exact isDigit_digitByte (by omega)
  · obtain ⟨d, hd, rfl⟩ := List.mem_map.mp hb
    exact isDigit_digitByte (Nat.digits_lt_base (by omega) (List.mem_reverse.mp hd))

theorem printNat_ne_nil (n : Nat) : printNat n ≠ [] := by
  unfold printNat
  split
  · exact List.cons_ne_nil _ _
  · rename_i hn
    rw [ne_eq, List.map_eq_nil_iff, List.reverse_eq_nil_iff]
    exact Nat.digits_ne_nil_iff_ne_zero.mpr hn

/-- Digits from the least significant on denote what they are the digits of. -/
theorem digitsValue_reverse (digits : List Nat) (small : ∀ d ∈ digits, d < 10) :
    digitsValue (digits.reverse.map digitByte) = Nat.ofDigits 10 digits := by
  rw [digitsValue, List.map_reverse, List.foldl_reverse]
  induction digits with
  | nil => rfl
  | cons d digits ih =>
    rw [List.map_cons, List.foldr_cons, ih fun x hx => small x (List.mem_cons_of_mem _ hx),
      digitByte_toNat (small d (List.mem_cons_self ..)), Nat.ofDigits_cons]
    omega

theorem digitsValue_printNat (n : Nat) : digitsValue (printNat n) = n := by
  unfold printNat
  split
  · rename_i hn
    rw [hn]
    rfl
  · rw [digitsValue_reverse _ fun d hd => Nat.digits_lt_base (by omega) hd, Nat.ofDigits_digits]

/-- **Numbers round trip** where no digit follows. -/
theorem readNat_printNat (n : Nat) (c : UInt8) (rest : List UInt8) (hc : isDigit c = false) :
    readNat (printNat n ++ c :: rest) = some (n, c :: rest) := by
  have htake : (printNat n ++ c :: rest).takeWhile isDigit = printNat n := by
    rw [List.takeWhile_append_of_pos (isDigit_printNat n), List.takeWhile_cons_of_neg (by simp [hc]),
      List.append_nil]
  have hdrop : (printNat n ++ c :: rest).dropWhile isDigit = c :: rest := by
    rw [List.dropWhile_append_of_pos (isDigit_printNat n), List.dropWhile_cons_of_neg (by simp [hc])]
  have hsome : (printNat n).isEmpty = false := by
    rw [List.isEmpty_eq_false_iff]
    exact printNat_ne_nil n
  simp only [readNat, htake, hdrop, hsome, digitsValue_printNat]
  rfl

/-! ### Pixmaps -/

/-- Space, tabulator, line feed, vertical tabulator, form feed and carriage return. -/
def isSpace (b : UInt8) : Bool := b = 32 || (9 ≤ b.toNat && b.toNat ≤ 13)

/-- Skips white space, of which there must be some. -/
def skipSpace : List UInt8 → Option (List UInt8)
  | c :: rest => if isSpace c then some (rest.dropWhile isSpace) else none
  | [] => none

/-- A pixmap: its samples row by row, three for each pixel. -/
structure Ppm where
  width : Nat
  height : Nat
  maxval : Nat
  raster : List UInt8
  deriving Repr, DecidableEq

/-- A decimal number behind white space. -/
def readField (bytes : List UInt8) : Option (Nat × List UInt8) := (skipSpace bytes).bind readNat

/-- Reads a pixmap with samples of one byte, to its end. -/
def readPpm : List UInt8 → Option Ppm
  | 0x50 :: 0x36 :: bytes => do
      let (width, bytes) ← readField bytes
      let (height, bytes) ← readField bytes
      let (maxval, bytes) ← readField bytes
      match bytes with
      | c :: raster =>
          if isSpace c ∧ 0 < maxval ∧ maxval < 256 ∧ raster.length = 3 * width * height then
            some ⟨width, height, maxval, raster⟩
          else none
      | [] => none
  | _ => none

/-- `P6\n%d %d\n255\n` and the samples. -/
def printPpm (width height : Int) (raster : List UInt8) : List UInt8 :=
  0x50 :: 0x36 :: 0x0a :: (printInt width ++ 0x20 :: (printInt height ++
    0x0a :: (printNat 255 ++ 0x0a :: raster)))

/-- The first character of a number is no white space. -/
theorem dropWhile_isSpace_printNat (n : Nat) (rest : List UInt8) :
    (printNat n ++ rest).dropWhile isSpace = printNat n ++ rest := by
  cases hprint : printNat n with
  | nil => exact absurd hprint (printNat_ne_nil n)
  | cons b digits =>
    have hdigit : isDigit b = true := isDigit_printNat n b (by rw [hprint]; simp)
    have hspace : isSpace b = false := by
      have hrange : 48 ≤ b.toNat := by
        rw [isDigit, Bool.and_eq_true] at hdigit
        exact of_decide_eq_true hdigit.1
      have hne : b ≠ 32 := fun heq => by
        rw [heq] at hrange
        exact absurd hrange (by decide)
      rw [isSpace, decide_eq_false hne, decide_eq_false (show ¬ b.toNat ≤ 13 by omega),
        Bool.and_false, Bool.or_self]
    rw [List.cons_append, List.dropWhile_cons_of_neg (by simp [hspace])]

/-- A number between two white spaces. -/
theorem readField_printNat (s c : UInt8) (n : Nat) (rest : List UInt8) (hs : isSpace s = true)
    (hc : isDigit c = false) :
    readField (s :: (printNat n ++ c :: rest)) = some (n, c :: rest) := by
  rw [readField, skipSpace, if_pos hs, Option.bind_some, dropWhile_isSpace_printNat,
    readNat_printNat n c rest hc]

/-- A negative number is no decimal number. -/
theorem readField_printInt_neg (s : UInt8) {x : Int} (rest : List UInt8) (hs : isSpace s = true)
    (hx : x < 0) : readField (s :: (printInt x ++ rest)) = none := by
  rw [readField, skipSpace, if_pos hs, printInt, if_pos hx, Option.bind_some, List.cons_append,
    List.dropWhile_cons_of_neg (by decide)]
  rfl

theorem printInt_of_nonneg {x : Int} (hx : 0 ≤ x) : printInt x = printNat x.toNat :=
  if_neg (Int.not_lt.mpr hx)

/-- **Pixmaps round trip.** -/
theorem readPpm_printPpm {width height : Int} (raster : List UInt8) (hwidth : 0 ≤ width)
    (hheight : 0 ≤ height) (hraster : raster.length = 3 * width.toNat * height.toNat) :
    readPpm (printPpm width height raster) = some ⟨width.toNat, height.toNat, 255, raster⟩ := by
  have hw := readField_printNat 0x0a 0x20 width.toNat (printNat height.toNat ++
    0x0a :: (printNat 255 ++ 0x0a :: raster)) rfl rfl
  have hh := readField_printNat 0x20 0x0a height.toNat (printNat 255 ++ 0x0a :: raster) rfl rfl
  have hm := readField_printNat 0x0a 0x0a 255 raster rfl rfl
  have hend : isSpace 0x0a = true ∧ 0 < 255 ∧ 255 < 256 ∧
      raster.length = 3 * width.toNat * height.toNat := ⟨rfl, by decide, by decide, hraster⟩
  rw [printPpm, printInt_of_nonneg hwidth, printInt_of_nonneg hheight]
  simp only [readPpm, hw, hh, hm, Option.bind_eq_bind, Option.bind_some, if_pos hend]

/-- **Which headers are pixmaps**: those without a negative dimension. -/
theorem readPpm_printPpm_isSome {width height : Int} (raster : List UInt8)
    (hraster : 0 ≤ width → 0 ≤ height → raster.length = 3 * width.toNat * height.toNat) :
    (readPpm (printPpm width height raster)).isSome = true ↔ 0 ≤ width ∧ 0 ≤ height := by
  by_cases hwidth : 0 ≤ width
  · by_cases hheight : 0 ≤ height
    · rw [readPpm_printPpm raster hwidth hheight (hraster hwidth hheight)]
      exact iff_of_true rfl ⟨hwidth, hheight⟩
    · have hw := readField_printNat 0x0a 0x20 width.toNat (printInt height ++
        0x0a :: (printNat 255 ++ 0x0a :: raster)) rfl rfl
      have hh := readField_printInt_neg 0x20 (0x0a :: (printNat 255 ++ 0x0a :: raster)) rfl
        (Int.not_le.mp hheight)
      refine iff_of_false ?_ fun hboth => hheight hboth.2
      rw [printPpm, printInt_of_nonneg hwidth]
      simp only [readPpm, hw, hh, Option.bind_eq_bind, Option.bind_some, Option.bind_none]
      decide
  · have hw := readField_printInt_neg 0x0a (0x20 :: (printInt height ++
      0x0a :: (printNat 255 ++ 0x0a :: raster))) rfl (Int.not_le.mp hwidth)
    refine iff_of_false ?_ fun hboth => hwidth hboth.1
    rw [printPpm]
    simp only [readPpm, hw, Option.bind_eq_bind, Option.bind_none]
    decide

example : printPpm 2 1 [16, 16, 16, 235, 235, 235] =
    [0x50, 0x36, 0x0a, 0x32, 0x20, 0x31, 0x0a, 0x32, 0x35, 0x35, 0x0a, 16, 16, 16, 235, 235,
      235] := by
  decide

end FsfwFromZero.Lib
