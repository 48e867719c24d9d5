import DisplayHal.Ltdc.Driver

/-!
# Frame buffers

`ltdcXxSetFrameI` programs the pixel format and three registers from a frame
descriptor: the address into `CFBAR`, the pitch and the line length plus 3 into the two
13-bit fields of `CFBLR`, and the line count into `CFBLNR`. `ltdcXxGetFrameI` decodes
them again, the width through the bytes per pixel of the programmed format.

The setter checks the geometry but not the pitch against its 13-bit field, and it
looks up the bytes per pixel through `ltdcBitsPerPixel`, whose assertion
`fmt < LTDC_MAX_PIXFMT_ID` refuses `AL88`, the last format. The getter fills in
address, pitch, width and height and leaves the format of the caller's storage as it
was. So a frame reads back with its pitch taken modulo `2^13` and the storage's format
(`ltdcXxSetFrameI_ltdcXxGetFrameI`), provided the header's limits fit the fields, as
those of the device do.
-/

namespace Ltdc

/-- The spec's validity of a frame descriptor under a running configuration: a format id
0..7, at most the screen, a line of `ltdc_bpp[fmt] / 8` bytes per pixel within the
frame-width limits, a line count within the frame-height limits, and a pitch of at
least a line. -/
structure LtdcFrame.Valid (H : LtdcHeader) (cfg : LTDCConfig) (f : LtdcFrame) : Prop where
  fmt_le : f.fmt ≤ LTDC_MAX_PIXFMT_ID
  width_le : f.width ≤ cfg.screen_width
  height_le : f.height ≤ cfg.screen_height
  min_line : H.LTDC_MIN_FRAME_WIDTH_BYTES ≤ ltdc_bpp.getD f.fmt 0 / 8 * f.width
  max_line : ltdc_bpp.getD f.fmt 0 / 8 * f.width ≤ H.LTDC_MAX_FRAME_WIDTH_BYTES
  min_height : H.LTDC_MIN_FRAME_HEIGHT_LINES ≤ f.height
  max_height : f.height ≤ H.LTDC_MAX_FRAME_HEIGHT_LINES
  pitch_ge : ltdc_bpp.getD f.fmt 0 / 8 * f.width ≤ f.pitch

/-! ## Bytes per pixel -/

theorem ltdcBytesPerPixel_of_lt {fmt : Nat} (h : fmt < LTDC_MAX_PIXFMT_ID) :
    ltdcBytesPerPixel fmt = .ok (ltdc_bpp.getD fmt 0 / 8) := by
  rw [ltdcBytesPerPixel, ltdcBitsPerPixel_of_lt h]
  rfl

theorem bytesPerPixel_pos {fmt : Nat} (h : fmt < LTDC_MAX_PIXFMT_ID) : 0 < ltdc_bpp.getD fmt 0 / 8 := by
  have : fmt < 7 := h
  interval_cases fmt <;> decide

/-! ## Registers -/

/-- `CFBLR` written with a pitch and a line length: bits 28..16 hold the pitch and bits
12..0 the line length, each modulo `2^13`. -/
theorem cfblr_fields (pitch ll : Nat) :
    let X := ((pitch <<< 16) &&& 0x1FFF0000) ||| (ll &&& 0x1FFF)
    (X &&& 0x1FFF0000) >>> 16 = pitch % 2 ^ 13 ∧ X &&& 0x1FFF = ll % 2 ^ 13 := by
  intro X
  have hlo : ll &&& 0x1FFF = ll % 2 ^ 13 := and_low_mask ll 13
  have hhi : (pitch <<< 16) &&& 0x1FFF0000 = (pitch % 2 ^ 13) <<< 16 := by
    rw [show (0x1FFF0000 : Nat) = (2 ^ 13 - 1) <<< 16 from rfl, and_field_mask, Nat.shiftLeft_eq,
      Nat.shiftLeft_eq, Nat.mul_div_cancel _ (by positivity)]
  have hX : X = ll % 2 ^ 13 + pitch % 2 ^ 13 * 2 ^ 16 := by
    simp only [X, hlo, hhi]
    rw [Nat.or_comm]
    exact or_shiftLeft_eq_add _ _ (by omega)
  rw [show (0x1FFF : Nat) = 2 ^ 13 - 1 from rfl, and_low_mask,
    show (0x1FFF0000 : Nat) = (2 ^ 13 - 1) <<< 16 from rfl, and_field_mask,
    Nat.shiftRight_eq_div_pow, hX]
  constructor <;> omega

/-! ## The methods -/

theorem ltdcXxSetPixelFormatI_run {fmt : Nat} (h : fmt ≤ LTDC_MAX_PIXFMT_ID) (lr : LayerRegs) :
    (ltdcXxSetPixelFormatI fmt).run lr =
      .ok ((), { lr with PFCR := rmw lr.PFCR LTDC_LxPFCR_PF fmt }) := by
  simp [ltdcXxSetPixelFormatI, StateT.run_bind, h, LTDC_MIN_PIXFMT_ID]

/-- An `AL88` frame halts in `ltdcBitsPerPixel`. -/
theorem ltdcXxSetFrameI_al88 (H : LtdcHeader) (ctx : LayerCtx) {f : LtdcFrame}
    (hf : f.fmt = LTDC_FMT_AL88) (lr : LayerRegs) :
    (ltdcXxSetFrameI H ctx (some f)).run lr = .error (.panic "ltdcBitsPerPixel(), #1") := by
  simp only [ltdcXxSetFrameI, StateT.run_bind, chDbgAssert_run, ne_eq, reduceCtorEq,
    not_false_eq_true, ite_true, Option.getD_some, ok_bind, hf,
    ltdcXxSetPixelFormatI_run (show LTDC_FMT_AL88 ≤ LTDC_MAX_PIXFMT_ID by decide),
    ltdcBytesPerPixel_al88, ofPanic]
  rfl

/-- A valid frame of any other format passes every check and is written. -/
theorem ltdcXxSetFrameI_run (H : LtdcHeader) {ctx : LayerCtx} {cfg : LTDCConfig}
    (hcfg : ctx.config = some cfg) {f : LtdcFrame} (hf : f.Valid H cfg)
    (hfmt : f.fmt ≠ LTDC_FMT_AL88) (lr : LayerRegs) :
    (ltdcXxSetFrameI H ctx (some f)).run lr = .ok ((), { lr with
      PFCR := rmw lr.PFCR LTDC_LxPFCR_PF f.fmt
      CFBAR := f.bufferp &&& LTDC_LxCFBAR_CFBADD
      CFBLR := ((f.pitch <<< 16) &&& LTDC_LxCFBLR_CFBP) |||
        ((ltdc_bpp.getD f.fmt 0 / 8 * f.width + 3) &&& LTDC_LxCFBLR_CFBLL)
      CFBLNR := f.height &&& LTDC_LxCFBLNR_CFBLNBR }) := by
  have hlt : f.fmt < LTDC_MAX_PIXFMT_ID := lt_of_le_of_ne hf.fmt_le hfmt
  simp [-List.getD_eq_getElem?_getD, ltdcXxSetFrameI, StateT.run_bind,
    ltdcXxSetPixelFormatI_run hf.fmt_le,
    ltdcBytesPerPixel_of_lt hlt, ofPanic, LayerCtx.cfg, hcfg, hf.width_le, hf.height_le,
    hf.min_line, hf.max_line, hf.min_height, hf.max_height, hf.pitch_ge]

/-- The getter decodes the frame registers under a format that `ltdcBitsPerPixel`
accepts. -/
theorem ltdcXxGetFrameI_run {lr : LayerRegs} (hfmt : lr.PFCR &&& LTDC_LxPFCR_PF < LTDC_MAX_PIXFMT_ID)
    (storage : LtdcFrame) :
    (ltdcXxGetFrameI storage).run lr = .ok ({ storage with
      bufferp := lr.CFBAR &&& LTDC_LxCFBAR_CFBADD
      pitch := (lr.CFBLR &&& LTDC_LxCFBLR_CFBP) >>> 16
      width := (subU32 (lr.CFBLR &&& LTDC_LxCFBLR_CFBLL) 3 /
        (ltdc_bpp.getD (lr.PFCR &&& LTDC_LxPFCR_PF) 0 / 8)) % 2 ^ 16
      height := (lr.CFBLNR &&& LTDC_LxCFBLNR_CFBLNBR) % 2 ^ 16 }, lr) := by
  simp [-List.getD_eq_getElem?_getD, ltdcXxGetFrameI, ltdcXxGetPixelFormatI, StateT.run_bind,
    ltdcBytesPerPixel_of_lt hfmt, ofPanic]
  rfl

/-- For a header whose frame limits fit the 13-bit line-length field and the 11-bit
line-count field, and a 32-bit address: an `AL88` frame halts in `ltdcBitsPerPixel`;
any other valid frame passes every check and `ltdcXxGetFrameI` reads it back with the
pitch modulo `2^13` and the format of the caller's storage, also after
`ltdcXxSetFrameAddressI` has replaced the address. -/
theorem ltdcXxSetFrameI_ltdcXxGetFrameI (H : LtdcHeader) {ctx : LayerCtx} {cfg : LTDCConfig}
    (hcfg : ctx.config = some cfg) (hW : H.LTDC_MAX_FRAME_WIDTH_BYTES + 3 < 2 ^ 13)
    (hL : H.LTDC_MAX_FRAME_HEIGHT_LINES < 2 ^ 11) (f : LtdcFrame) (hf : f.Valid H cfg)
    (hbuf : f.bufferp < 2 ^ 32) (p : Nat) (hp : p < 2 ^ 32) (storage : LtdcFrame)
    (lr : LayerRegs) :
    (f.fmt = LTDC_FMT_AL88 →
      (ltdcXxSetFrameI H ctx (some f)).run lr = .error (.panic "ltdcBitsPerPixel(), #1")) ∧
    (f.fmt ≠ LTDC_FMT_AL88 →
      ((do ltdcXxSetFrameI H ctx (some f); ltdcXxGetFrameI storage).run lr).map Prod.fst =
          .ok { f with pitch := f.pitch % 2 ^ 13, fmt := storage.fmt } ∧
        ((do ltdcXxSetFrameI H ctx (some f); ltdcXxSetFrameAddressI p
             ltdcXxGetFrameI storage).run lr).map Prod.fst =
          .ok { f with bufferp := p, pitch := f.pitch % 2 ^ 13, fmt := storage.fmt }) := by
  refine ⟨(ltdcXxSetFrameI_al88 H ctx · lr), fun hfmt => ?_⟩
  have hlt : f.fmt < LTDC_MAX_PIXFMT_ID := lt_of_le_of_ne hf.fmt_le hfmt
  have hpf : rmw lr.PFCR LTDC_LxPFCR_PF f.fmt &&& LTDC_LxPFCR_PF = f.fmt := by
    rw [rmw_and_mask (by decide), show LTDC_LxPFCR_PF = 2 ^ 3 - 1 from rfl, and_low_mask]
    exact Nat.mod_eq_of_lt (lt_of_le_of_lt hf.fmt_le (by decide))
  obtain ⟨hpitch, hll⟩ := cfblr_fields f.pitch (ltdc_bpp.getD f.fmt 0 / 8 * f.width + 3)
  have hbpp := bytesPerPixel_pos hlt
  have hline := hf.max_line
  have hmaxh := hf.max_height
  have hwidth : f.width < 2 ^ 16 := by
    have := Nat.le_mul_of_pos_left f.width hbpp
    omega
  have hheight : (f.height &&& LTDC_LxCFBLNR_CFBLNBR) &&& LTDC_LxCFBLNR_CFBLNBR = f.height := by
    rw [Nat.and_assoc, Nat.and_self, show LTDC_LxCFBLNR_CFBLNBR = 2 ^ 11 - 1 from rfl,
      and_low_mask]
    exact Nat.mod_eq_of_lt (by omega)
  have haddr : ∀ x : Nat, x < 2 ^ 32 → x &&& LTDC_LxCFBAR_CFBADD = x := fun x hx => by
    rw [show LTDC_LxCFBAR_CFBADD = 2 ^ 32 - 1 from rfl, and_low_mask, Nat.mod_eq_of_lt hx]
  have hget : ∀ a, ((ltdcXxGetFrameI storage).run { lr with
      PFCR := rmw lr.PFCR LTDC_LxPFCR_PF f.fmt
      CFBAR := a
      CFBLR := ((f.pitch <<< 16) &&& LTDC_LxCFBLR_CFBP) |||
        ((ltdc_bpp.getD f.fmt 0 / 8 * f.width + 3) &&& LTDC_LxCFBLR_CFBLL)
      CFBLNR := f.height &&& LTDC_LxCFBLNR_CFBLNBR }).map Prod.fst =
      .ok { f with
        bufferp := a &&& LTDC_LxCFBAR_CFBADD
        pitch := f.pitch % 2 ^ 13
        fmt := storage.fmt } := fun a => by
    rw [ltdcXxGetFrameI_run (by simpa only [hpf] using hlt)]
    simp only [hpf, hheight, LTDC_LxCFBLR_CFBP, LTDC_LxCFBLR_CFBLL] at hpitch hll ⊢
    rw [hpitch, hll, Nat.mod_eq_of_lt (show ltdc_bpp.getD f.fmt 0 / 8 * f.width + 3 < 2 ^ 13 by omega),
      subU32, if_pos (by omega), Nat.add_sub_cancel, Nat.mul_div_cancel_left _ hbpp,
      Nat.mod_eq_of_lt hwidth, Nat.mod_eq_of_lt (show f.height < 2 ^ 16 by omega)]
    rfl
  constructor
  · rw [StateT.run_bind, ltdcXxSetFrameI_run H hcfg hf hfmt, ok_bind, hget, haddr _ hbuf,
      haddr _ hbuf]
  · rw [StateT.run_bind, ltdcXxSetFrameI_run H hcfg hf hfmt, ok_bind, StateT.run_bind]
    erw [ok_bind]
    exact (hget p).trans (by rw [haddr p hp])

/-- After `ltdcStart` of the scenario panel, an `RGB565` frame with a pitch of `2^13`
bytes reads back with pitch 0 and the `L8` format of `ltdc_invalid_frame`, the storage it
is read into; the same frame in `AL88` halts. -/
theorem wide_pitch_frame_readback :
    let ctx : LayerCtx := ⟨some scenarioConfig, ⟨43, 522, 12, 283⟩⟩
    ((do ltdcXxSetFrameI fieldHeader ctx (some ⟨0xD0000000, 480, 272, 8192, LTDC_FMT_RGB565⟩)
         ltdcXxGetFrameI ltdc_invalid_frame).run zeroLayerRegs).map Prod.fst =
        .ok ⟨0xD0000000, 480, 272, 0, LTDC_FMT_L8⟩ ∧
      (ltdcXxSetFrameI fieldHeader ctx (some ⟨0xD0000000, 480, 272, 960, LTDC_FMT_AL88⟩)).run
        zeroLayerRegs = .error (.panic "ltdcBitsPerPixel(), #1") := by
  dsimp only
  constructor
  · exact ((ltdcXxSetFrameI_ltdcXxGetFrameI fieldHeader rfl (by decide) (by decide)
      ⟨0xD0000000, 480, 272, 8192, LTDC_FMT_RGB565⟩ (by constructor <;> decide) (by decide) 0
      (by decide) ltdc_invalid_frame zeroLayerRegs).2 (by decide)).1
  · exact (ltdcXxSetFrameI_ltdcXxGetFrameI fieldHeader
      (show LayerCtx.config ⟨some scenarioConfig, ⟨43, 522, 12, 283⟩⟩ = _ from rfl)
      (by decide) (by decide) ⟨0xD0000000, 480, 272, 960, LTDC_FMT_AL88⟩
      (by constructor <;> decide) (by decide) 0 (by decide) ltdc_invalid_frame zeroLayerRegs).1 rfl

end Ltdc
