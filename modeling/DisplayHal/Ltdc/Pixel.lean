import Mathlib.Tactic.IntervalCases
import DisplayHal.Ltdc.Model

/-!
# Pixel formats and the software colour conversions

`ltdc_bpp` is the bits-per-pixel table, indexed by format id; `ltdcBitsPerPixel`
reads it behind an assertion on the id, and the frame methods go through
`ltdcBytesPerPixel`. `ltdcFromARGB8888` packs an ARGB-8888 colour into a format's
raw pixel and `ltdcToARGB8888` expands a raw pixel back, filling the low bits of a
non-zero channel.

The main result, `ltdcFromARGB8888_ltdcToARGB8888`, is that expansion loses nothing:
packing an expanded raw pixel gives the raw pixel back, masked to the format's
width. Expansion is therefore injective on raw pixels and `ltdcToARGB8888` after
`ltdcFromARGB8888` is idempotent. Each format's case is one run of the lane simp set
of `Bits`.
-/

namespace Ltdc

/-! ## Formats -/

/-- `LTDC_FMT_ARGB8888`: format ids are the indices of `ltdc_bpp`. -/
def LTDC_FMT_ARGB8888 : Nat := 0
def LTDC_FMT_RGB888 : Nat := 1
def LTDC_FMT_RGB565 : Nat := 2
def LTDC_FMT_ARGB1555 : Nat := 3
def LTDC_FMT_ARGB4444 : Nat := 4
def LTDC_FMT_L8 : Nat := 5
def LTDC_FMT_AL44 : Nat := 6
def LTDC_FMT_AL88 : Nat := 7

/-- `ltdc_bpp`: bits per pixel, indexed by format id. -/
def ltdc_bpp : List Nat := [32, 24, 16, 16, 16, 8, 8, 16]

/-- `ltdcBitsPerPixel`: the table entry, behind the assertion
`fmt < LTDC_MAX_PIXFMT_ID`; a failure is the assertion's panic message. -/
def ltdcBitsPerPixel (fmt : Nat) : Except String Nat :=
  if fmt < LTDC_MAX_PIXFMT_ID then .ok (ltdc_bpp.getD fmt 0) else .error "ltdcBitsPerPixel(), #1"

/-- Modelled from the spec: the macro `ltdcBytesPerPixel` of `stm32_ltdc.h`, not among
the sources. Bytes per pixel are the bits per pixel of `ltdcBitsPerPixel` over 8. -/
def ltdcBytesPerPixel (fmt : Nat) : Except String Nat :=
  (· / 8) <$> ltdcBitsPerPixel fmt

theorem ltdcBitsPerPixel_of_lt {fmt : Nat} (h : fmt < LTDC_MAX_PIXFMT_ID) :
    ltdcBitsPerPixel fmt = .ok (ltdc_bpp.getD fmt 0) := if_pos h

theorem ltdcBytesPerPixel_al88 : ltdcBytesPerPixel LTDC_FMT_AL88 = .error "ltdcBitsPerPixel(), #1" :=
  rfl

/-! ## Conversions -/

/-- `ltdcFromARGB8888`: an ARGB-8888 colour as a raw pixel of format `fmt`. -/
def ltdcFromARGB8888 (c fmt : Nat) : Except String Nat :=
  match fmt with
  | 0 => .ok c
  | 1 => .ok (c &&& 0x00FFFFFF)
  | 2 => .ok (((c &&& 0x000000F8) >>> (8 - 5)) |||
              ((c &&& 0x0000FC00) >>> (16 - 11)) |||
              ((c &&& 0x00F80000) >>> (24 - 16)))
  | 3 => .ok (((c &&& 0x000000F8) >>> (8 - 5)) |||
              ((c &&& 0x0000F800) >>> (16 - 10)) |||
              ((c &&& 0x00F80000) >>> (24 - 15)) |||
              ((c &&& 0x80000000) >>> (32 - 16)))
  | 4 => .ok (((c &&& 0x000000F0) >>> (8 - 4)) |||
              ((c &&& 0x0000F000) >>> (16 - 8)) |||
              ((c &&& 0x00F00000) >>> (24 - 12)) |||
              ((c &&& 0xF0000000) >>> (32 - 16)))
  | 5 => .ok (c &&& 0x000000FF)
  | 6 => .ok (((c &&& 0x000000F0) >>> (8 - 4)) |||
              ((c &&& 0xF0000000) >>> (32 - 8)))
  | 7 => .ok (((c &&& 0x000000FF) >>> (8 - 8)) |||
              ((c &&& 0xFF000000) >>> (32 - 16)))
  | _ => .error "invalid format"

/-- `ltdcToARGB8888`: a raw pixel of format `fmt` as an ARGB-8888 colour. -/
def ltdcToARGB8888 (c fmt : Nat) : Except String Nat :=
  match fmt with
  | 0 => .ok c
  | 1 => .ok ((c &&& 0x00FFFFFF) ||| 0xFF000000)
  | 2 =>
    let output := 0xFF000000
    let output := if c &&& 0x001F ≠ 0 then
      output ||| (((c &&& 0x001F) <<< (8 - 5)) ||| 0x00000007) else output
    let output := if c &&& 0x07E0 ≠ 0 then
      output ||| (((c &&& 0x07E0) <<< (16 - 11)) ||| 0x00000300) else output
    let output := if c &&& 0xF800 ≠ 0 then
      output ||| (((c &&& 0xF800) <<< (24 - 16)) ||| 0x00070000) else output
    .ok output
  | 3 =>
    let output := 0x00000000
    let output := if c &&& 0x001F ≠ 0 then
      output ||| (((c &&& 0x001F) <<< (8 - 5)) ||| 0x00000007) else output
    let output := if c &&& 0x03E0 ≠ 0 then
      output ||| (((c &&& 0x03E0) <<< (16 - 10)) ||| 0x00000700) else output
    let output := if c &&& 0x7C00 ≠ 0 then
      output ||| (((c &&& 0x7C00) <<< (24 - 15)) ||| 0x00070000) else output
    let output := if c &&& 0x8000 ≠ 0 then output ||| 0xFF000000 else output
    .ok output
  | 4 =>
    let output := 0x00000000
    let output := if c &&& 0x000F ≠ 0 then
      output ||| (((c &&& 0x000F) <<< (8 - 4)) ||| 0x0000000F) else output
    let output := if c &&& 0x00F0 ≠ 0 then
      output ||| (((c &&& 0x00F0) <<< (16 - 8)) ||| 0x00000F00) else output
    let output := if c &&& 0x0F00 ≠ 0 then
      output ||| (((c &&& 0x0F00) <<< (24 - 12)) ||| 0x000F0000) else output
    let output := if c &&& 0xF000 ≠ 0 then
      output ||| (((c &&& 0xF000) <<< (32 - 16)) ||| 0x0F000000) else output
    .ok output
  | 5 => .ok ((c &&& 0xFF) ||| 0xFF000000)
  | 6 =>
    let output := 0x00000000
    let output := if c &&& 0x0F ≠ 0 then
      output ||| (((c &&& 0x0F) <<< (8 - 4)) ||| 0x0000000F) else output
    let output := if c &&& 0xF0 ≠ 0 then
      output ||| (((c &&& 0xF0) <<< (32 - 8)) ||| 0x0F000000) else output
    .ok output
  | 7 => .ok (((c &&& 0x00FF) <<< (8 - 8)) ||| ((c &&& 0xFF00) <<< (32 - 16)))
  | _ => .error "(), #1"

/-- Unpacking a raw pixel to ARGB-8888 and packing it again keeps its bits within the
format's width. -/
theorem from_to_lanes (x F : Nat) (hF : F < 8) :
    (ltdcToARGB8888 x F).bind (ltdcFromARGB8888 · F) =
      .ok (if F = LTDC_FMT_ARGB8888 then x else x &&& (2 ^ ltdc_bpp.getD F 0 - 1)) := by
  interval_cases F <;>
  simp (disch := decide) only [ltdcToARGB8888, ltdcFromARGB8888, Except.bind, ite_or, ite_lane,
    ite_lane_self, ite_shiftRight, and_eq_right_of_lor_eq, LTDC_FMT_ARGB8888, ltdc_bpp,
    List.getD_cons_succ, List.getD_cons_zero, Nat.reduceEqDiff, ite_true, ite_false, Nat.and_self,
    Nat.and_distrib_right, and_shl_eq_zero, and_shl_of_sub, and_and_eq_zero, and_and_of_sub,
    and_eq_zero_of_xor_eq_lor, ite_zero_and, ite_self, Nat.or_zero, Nat.zero_or, shiftRight_or_distrib,
    Nat.zero_shiftRight, Nat.shiftLeft_shiftRight, ← Nat.and_or_distrib_left, Nat.reduceOr, Nat.reduceSub,
    Nat.reducePow, Nat.reduceShiftLeft, Nat.reduceShiftRight]
  rw [show (32768 : Nat) = 2 ^ 15 from rfl, ite_and_two_pow, ← Nat.and_or_distrib_left]
  rfl

/-- A packed colour fits in its format's width. -/
theorem from_fits (c F : Nat) (hF : F < 8) (h0 : F ≠ LTDC_FMT_ARGB8888) :
    (ltdcFromARGB8888 c F).bind (fun r => .ok (r &&& (2 ^ ltdc_bpp.getD F 0 - 1))) =
      ltdcFromARGB8888 c F := by
  interval_cases F
  · exact absurd rfl h0
  all_goals
  simp (disch := decide) only [ltdcFromARGB8888, ltdc_bpp, List.getD_cons_succ,
    List.getD_cons_zero, Except.bind, Nat.and_distrib_right, shiftRight_and, and_and_of_sub,
    Nat.reducePow, Nat.reduceSub, Nat.reduceShiftLeft, Nat.shiftRight_zero]

/-- Expansion loses nothing of a raw pixel: packing it again gives the raw pixel,
masked to the format's width (all 32 bits for ARGB-8888). So expansion is injective
on raw pixels, and expanding a packed colour is idempotent. -/
theorem ltdcFromARGB8888_ltdcToARGB8888 (F : Nat) (hF : F ≤ LTDC_MAX_PIXFMT_ID) :
    (∀ x, (ltdcToARGB8888 x F).bind (ltdcFromARGB8888 · F) =
        .ok (if F = LTDC_FMT_ARGB8888 then x else x &&& (2 ^ ltdc_bpp.getD F 0 - 1))) ∧
    (∀ x y, x < 2 ^ ltdc_bpp.getD F 0 → y < 2 ^ ltdc_bpp.getD F 0 →
        ltdcToARGB8888 x F = ltdcToARGB8888 y F → x = y) ∧
    (∀ c, ((ltdcFromARGB8888 c F).bind (ltdcToARGB8888 · F)).bind
            (fun y => (ltdcFromARGB8888 y F).bind (ltdcToARGB8888 · F)) =
          (ltdcFromARGB8888 c F).bind (ltdcToARGB8888 · F)) := by
  have hF8 : F < 8 := Nat.lt_succ_of_le hF
  refine ⟨(from_to_lanes · F hF8), fun x y hx hy h => ?_, fun c => ?_⟩
  · have hxy := from_to_lanes x F hF8
    rw [h, from_to_lanes y F hF8] at hxy
    split_ifs at hxy
    · exact (Except.ok.inj hxy).symm
    · rw [and_low_mask, and_low_mask, Nat.mod_eq_of_lt hx, Nat.mod_eq_of_lt hy] at hxy
      exact (Except.ok.inj hxy).symm
  · obtain ⟨r, hr⟩ : ∃ r, ltdcFromARGB8888 c F = .ok r := by
      interval_cases F <;> exact ⟨_, rfl⟩
    have hround : (ltdcToARGB8888 r F).bind (ltdcFromARGB8888 · F) = .ok r := by
      rw [from_to_lanes r F hF8]
      split_ifs with h0
      · rfl
      · have hfit := from_fits c F hF8 h0
        rw [hr] at hfit
        exact hfit
    obtain ⟨t, ht⟩ : ∃ t, ltdcToARGB8888 r F = .ok t := by
      interval_cases F <;> exact ⟨_, rfl⟩
    simp only [ht, Except.bind] at hround
    simp only [hr, ht, hround, Except.bind]

/-- Spec scenario 6: the saturated green of RGB-565 survives expansion and packing. -/
theorem rgb565_green_round_trip :
    LTDC_FMT_RGB565 ≤ LTDC_MAX_PIXFMT_ID ∧
      (ltdcToARGB8888 0x07E0 LTDC_FMT_RGB565).bind (ltdcFromARGB8888 · LTDC_FMT_RGB565) =
        .ok 0x07E0 :=
  ⟨by decide, (ltdcFromARGB8888_ltdcToARGB8888 LTDC_FMT_RGB565 (by decide)).1 0x07E0⟩

end Ltdc
