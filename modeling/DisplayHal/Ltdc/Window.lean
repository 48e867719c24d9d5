import DisplayHal.Ltdc.Palette

/-!
# Layer windows

`ltdcXxSetWindowI` takes a window relative to the active window, translates it by the
active window's origin and writes the absolute corners into `WHPCR` and `WVPCR`;
`ltdcXxGetWindowI` reads the absolute corners back. `ltdcXxSetWindowI_ok` says exactly
when the setter returns and what it writes, and `window_reg_fields` what the getter
reads from what was written: the start corners keep 12 bits and the stop corners 16.

Only the stop corners are bounded. Checks `#11`, `#12`, `#22` and `#32` compare them
with the screen and the active window; checks `#21` and `#31` compare the translated
start corner with the active window's start, but on the untruncated sum, so they always
hold. A start corner that reaches `2 ^ 12` once translated wraps in its 12-bit field:
the window the setter programs, and the getter reads back, then begins left of or above
the active area (`ltdcXxSetWindowI_ltdcXxGetWindowI`).

## Writing a layer back

`ltdcXxGetLayerI` reads a whole layer into a descriptor and `ltdcXxSetConfigI` programs
a layer from one. The two disagree on the window: the getter returns the absolute
corners, while the setter takes corners relative to the active window. Every started
configuration has an active window that starts right of column 0 (its start is the sync
width plus the back porch), so writing back what was read either halts, or programs the
window moved right by that start (`ltdcXxGetLayerI_ltdcXxSetConfigI_moves_window`). The
proof reads `WHPCR` at three points: the getter leaves the block as it was
(`ltdcXxGetLayerI_window`), `ltdcXxSetWindowI_ok` gives what the window setter writes,
and nothing `ltdcXxSetConfigI` does after it touches `WHPCR` (`Frame`).
-/

namespace Ltdc

/-! ## The window setter and getter -/

/-- A window register written with corners `start` and `stop`: the low 12 bits hold
`start`, the high 16 bits `stop`. -/
theorem window_reg_fields (start stop : Nat) :
    let X := ((start <<< 0) &&& 0xFFF) ||| ((stop <<< 16) &&& 0xFFFF0000)
    ((X &&& 0xFFF) >>> 0) % 2 ^ 16 = start % 2 ^ 12 ∧
      ((X &&& 0xFFFF0000) >>> 16) % 2 ^ 16 = stop % 2 ^ 16 := by
  intro X
  have hlo : (start <<< 0) &&& 0xFFF = start % 2 ^ 12 := by
    rw [Nat.shiftLeft_zero, show (0xFFF : Nat) = 2 ^ 12 - 1 from rfl, and_low_mask]
  have hhi : (stop <<< 16) &&& 0xFFFF0000 = (stop % 2 ^ 16) <<< 16 := by
    rw [show (0xFFFF0000 : Nat) = (2 ^ 16 - 1) <<< 16 from rfl, and_field_mask, Nat.shiftLeft_eq,
      Nat.shiftLeft_eq, Nat.mul_div_cancel _ (by positivity)]
  have hX : X = start % 2 ^ 12 + stop % 2 ^ 16 * 2 ^ 16 := by
    simp only [X, hlo, hhi]
    exact or_shiftLeft_eq_add _ _ (by omega)
  rw [show (0xFFF : Nat) = 2 ^ 12 - 1 from rfl, and_low_mask,
    show (0xFFFF0000 : Nat) = (2 ^ 16 - 1) <<< 16 from rfl, and_field_mask, Nat.shiftRight_zero,
    Nat.shiftRight_eq_div_pow, hX]
  constructor <;> omega

/-- `ltdcXxSetWindowI` returns exactly when the stop corners are on the screen and, once
translated, inside the active window; it then writes the translated corners. -/
theorem ltdcXxSetWindowI_ok {ctx : LayerCtx} {cfg : LTDCConfig} (hcfg : ctx.config = some cfg)
    (w : LtdcWindow) (lr lr' : LayerRegs) :
    (ltdcXxSetWindowI ctx (some w)).run lr = .ok ((), lr') ↔
      (w.hstop < cfg.screen_width ∧ w.vstop < cfg.screen_height ∧
        w.hstop + ctx.active_window.hstart ≤ ctx.active_window.hstop ∧
        w.vstop + ctx.active_window.vstart ≤ ctx.active_window.vstop) ∧
      lr' = { lr with
        WHPCR := (((w.hstart + ctx.active_window.hstart) <<< 0) &&& LTDC_LxWHPCR_WHSTPOS) |||
          (((w.hstop + ctx.active_window.hstart) <<< 16) &&& LTDC_LxWHPCR_WHSPPOS)
        WVPCR := (((w.vstart + ctx.active_window.vstart) <<< 0) &&& LTDC_LxWVPCR_WVSTPOS) |||
          (((w.vstop + ctx.active_window.vstart) <<< 16) &&& LTDC_LxWVPCR_WVSPPOS) } := by
  simp only [ltdcXxSetWindowI, LayerCtx.cfg, hcfg, StateT.run_bind, chDbgAssert_run,
    Option.getD_some, ne_eq, reduceCtorEq, not_false_eq_true, ite_true, ge_iff_le, Nat.le_add_left,
    StateT.run_pure, pure_bind, StateT.run_modify]
  constructor
  · intro h
    by_cases h1 : w.hstop < cfg.screen_width <;>
      simp only [h1, ite_false, ite_true, error_bind, ok_bind, reduceCtorEq] at h
    by_cases h2 : w.vstop < cfg.screen_height <;>
      simp only [h2, ite_false, ite_true, error_bind, ok_bind, reduceCtorEq] at h
    by_cases h3 : w.hstop + ctx.active_window.hstart ≤ ctx.active_window.hstop <;>
      simp only [h3, ite_false, ite_true, error_bind, ok_bind, reduceCtorEq] at h
    by_cases h4 : w.vstop + ctx.active_window.vstart ≤ ctx.active_window.vstop <;>
      simp only [h4, ite_false, ite_true, error_bind, ok_bind, reduceCtorEq] at h
    cases h
    exact ⟨⟨h1, h2, h3, h4⟩, rfl⟩
  · rintro ⟨⟨h1, h2, h3, h4⟩, rfl⟩
    simp only [h1, h2, h3, h4, if_true]
    rfl

/-- Every window whose stop corners pass the setter's checks is written, whatever its
start corners, and reads back translated by the active window's origin, each start corner
cut to the 12 bits of its field. -/
theorem ltdcXxSetWindowI_ltdcXxGetWindowI {ctx : LayerCtx} {cfg : LTDCConfig}
    (hcfg : ctx.config = some cfg) (hh : ctx.active_window.hstop < 2 ^ 16)
    (hv : ctx.active_window.vstop < 2 ^ 16) (w : LtdcWindow) (lr : LayerRegs)
    (h11 : w.hstop < cfg.screen_width) (h12 : w.vstop < cfg.screen_height)
    (h22 : w.hstop + ctx.active_window.hstart ≤ ctx.active_window.hstop)
    (h32 : w.vstop + ctx.active_window.vstart ≤ ctx.active_window.vstop) :
    let a := ctx.active_window
    ∃ lr', (ltdcXxSetWindowI ctx (some w)).run lr = .ok ((), lr') ∧
      ltdcXxGetWindowI.run lr' = .ok (⟨(w.hstart + a.hstart) % 2 ^ 12, w.hstop + a.hstart,
        (w.vstart + a.vstart) % 2 ^ 12, w.vstop + a.vstart⟩, lr') := by
  refine ⟨_, (ltdcXxSetWindowI_ok hcfg w lr _).2 ⟨⟨h11, h12, h22, h32⟩, rfl⟩, ?_⟩
  obtain ⟨hs, he⟩ := window_reg_fields (w.hstart + ctx.active_window.hstart)
    (w.hstop + ctx.active_window.hstart)
  obtain ⟨vs, ve⟩ := window_reg_fields (w.vstart + ctx.active_window.vstart)
    (w.vstop + ctx.active_window.vstart)
  simp only [ltdcXxGetWindowI, LTDC_LxWHPCR_WHSTPOS, LTDC_LxWHPCR_WHSPPOS, LTDC_LxWVPCR_WVSTPOS,
    LTDC_LxWVPCR_WVSPPOS, StateT.run_bind, StateT.run_get, StateT.run_pure, pure_bind] at hs he vs ve ⊢
  rw [hs, he, vs, ve, Nat.mod_eq_of_lt (show w.hstop + ctx.active_window.hstart < 2 ^ 16 by omega),
    Nat.mod_eq_of_lt (show w.vstop + ctx.active_window.vstart < 2 ^ 16 by omega)]
  rfl

/-- After `ltdcStart` of the scenario panel, whose active window spans columns 43 to 522
and lines 12 to 283, the background setter accepts the window (4053, 0, 0, 0): its start
column wraps to 0, and the window read back spans columns 0 to 43, left of the active
area. -/
theorem scenario_window_wraps :
    ∃ d, (ltdcStart fieldHeader scenarioConfig).run (ltdcInit zeroRegs LTDCD1) = .ok ((), d) ∧
      d.ctx = ⟨some scenarioConfig, ⟨43, 522, 12, 283⟩⟩ ∧
      ∃ lr', (ltdcXxSetWindowI d.ctx (some ⟨4053, 0, 0, 0⟩)).run (d.layer .bg) = .ok ((), lr') ∧
        ltdcXxGetWindowI.run lr' = .ok (⟨0, 43, 12, 12⟩, lr') := by
  obtain ⟨d, hd, hctx⟩ : ∃ d, (ltdcStart fieldHeader scenarioConfig).run (ltdcInit zeroRegs LTDCD1) =
      .ok ((), d) ∧ d.ctx = ⟨some scenarioConfig, ⟨43, 522, 12, 283⟩⟩ := ⟨_, rfl, rfl⟩
  refine ⟨d, hd, hctx, ?_⟩
  rw [hctx]
  exact ltdcXxSetWindowI_ltdcXxGetWindowI rfl (by decide) (by decide) _ _ (by decide) (by decide)
    (by decide) (by decide)

/-! ## Writing a layer back -/

/-- `ltdcXxGetLayerI` changes nothing, and the window it returns is what
`ltdcXxGetWindowI` reads. -/
theorem ltdcXxGetLayerI_window {storage : LtdcFrame} {lr lr' : LayerRegs} {c : LtdcLaycfg}
    (h : (ltdcXxGetLayerI storage).run lr = .ok (c, lr')) :
    lr' = lr ∧ ∃ w, c.window = some w ∧ ltdcXxGetWindowI.run lr = .ok (w, lr) := by
  cases hb : ltdcBytesPerPixel (lr.PFCR &&& LTDC_LxPFCR_PF) <;>
    simp only [ltdcXxGetLayerI, ltdcXxGetFrameI, ltdcXxGetPixelFormatI, bind_pure_comp, ofPanic,
      bind_map_left, bind_assoc, StateT.run_bind, StateT.run_get, StateT.run_map, pure_bind, hb,
      throw_run, error_bind, StateT.run_pure, reduceCtorEq] at h
  obtain ⟨rfl, rfl⟩ := h
  exact ⟨rfl, _, rfl, rfl⟩

/-- Past the window, `ltdcXxSetConfigI` leaves `WHPCR` as it is. -/
theorem ltdcXxSetConfigI_WHPCR {H : LtdcHeader} {ctx : LayerCtx} {c : LtdcLaycfg}
    {lr lr' : LayerRegs} (h : (ltdcXxSetConfigI H ctx (some c)).run lr = .ok ((), lr')) :
    ∃ lr₁ lr₂, (ltdcXxSetWindowI ctx c.window).run lr₁ = .ok ((), lr₂) ∧ lr'.WHPCR = lr₂.WHPCR := by
  obtain ⟨_, _, -, h⟩ := run_bind_ok h
  obtain ⟨_, lr₁, -, h⟩ := run_bind_ok h
  obtain ⟨_, lr₂, hw, h⟩ := run_bind_ok h
  refine ⟨lr₁, lr₂, hw, (show Frame (·.WHPCR) _ from ?_) _ _ _ h⟩
  unfold ltdcXxSetDefaultColorI ltdcXxSetKeyingColorI ltdcXxSetConstantAlphaI
    ltdcXxSetBlendingFactorsI ltdcXxSetPaletteI ltdcXxSetEnableFlagsI ltdcXxIsEnabledI crTestI
  repeat (first
    | with_reducible refine Frame.bind ?_ fun _ => ?_
    | with_reducible refine Frame.ite ?_ ?_
    | with_reducible exact Frame.chDbgAssert _ _
    | with_reducible exact Frame.get
    | with_reducible exact Frame.pure _
    | with_reducible exact Frame.modify fun _ => rfl
    | exact Frame.modify fun _ => paletteLoop_frame LayerRegs.WHPCR (fun _ _ => rfl) _ _ _)

/-- In a state whose active window starts at a column `0 < hstart < 2^12`, as that of
every started configuration does, writing back what `ltdcXxGetLayerI` read with
`ltdcXxSetConfigI` either halts, or passes and programs the window start moved right by
`hstart`, so that `WHPCR` is not what it was. -/
theorem ltdcXxGetLayerI_ltdcXxSetConfigI_moves_window (H : LtdcHeader) (L : LayerId)
    (d : LTDCDriver) {cfg : LTDCConfig} (hcfg : d.config = some cfg)
    (h0 : 0 < d.active_window.hstart) (h12 : d.active_window.hstart < 2 ^ 12)
    (storage : LtdcFrame) (d'' : LTDCDriver)
    (hwb : (do let c ← onLayer L fun _ => ltdcXxGetLayerI storage
               onLayer L (ltdcXxSetConfigI H · (some c))).run d = .ok ((), d'')) :
    (d''.layer L).WHPCR &&& LTDC_LxWHPCR_WHSTPOS =
        (((d.layer L).WHPCR &&& LTDC_LxWHPCR_WHSTPOS) + d.active_window.hstart) % 2 ^ 12 ∧
      (d''.layer L).WHPCR ≠ (d.layer L).WHPCR := by
  obtain ⟨c, _, hget, hset⟩ := run_bind_ok hwb
  obtain ⟨lr, hg, rfl⟩ := onLayer_run_ok hget
  obtain ⟨rfl, w, hw, hgw⟩ := ltdcXxGetLayerI_window hg
  obtain ⟨lr', hs, rfl⟩ := onLayer_run_ok hset
  simp only [LTDCDriver.ctx_setLayer, LTDCDriver.layer_setLayer_self] at hs ⊢
  obtain ⟨lr₁, lr₂, hwin, hlr'⟩ := ltdcXxSetConfigI_WHPCR hs
  rw [hw] at hwin
  obtain ⟨-, rfl⟩ := (ltdcXxSetWindowI_ok hcfg w lr₁ lr₂).1 hwin
  have hlt : (d.layer L).WHPCR &&& LTDC_LxWHPCR_WHSTPOS < 2 ^ 12 := Nat.and_lt_two_pow _ (by decide)
  have hstart : w.hstart = (d.layer L).WHPCR &&& LTDC_LxWHPCR_WHSTPOS := by
    cases hgw
    simp only [ltdcXxGetWindowI, Nat.shiftRight_zero]
    omega
  have hnew : lr'.WHPCR &&& LTDC_LxWHPCR_WHSTPOS = (w.hstart + d.active_window.hstart) % 2 ^ 12 := by
    obtain ⟨h, -⟩ := window_reg_fields (w.hstart + d.active_window.hstart)
      (w.hstop + d.active_window.hstart)
    rw [hlr']
    simp only [LTDC_LxWHPCR_WHSTPOS, LTDC_LxWHPCR_WHSPPOS, Nat.shiftRight_zero] at h ⊢
    rwa [Nat.mod_eq_of_lt ((Nat.and_lt_two_pow _ (by decide : 0xFFF < 2 ^ 12)).trans
      (by decide : 2 ^ 12 < 2 ^ 16))] at h
  rw [hstart] at hnew
  exact ⟨hnew, fun heq => by rw [heq] at hnew; omega⟩

/-- After `ltdcStart` of the scenario panel, which programs the background layer from
`ltdc_default_laycfg`, writing back what `ltdcBgGetLayerI` reads passes every check and
moves the window start from column 43 to column 86. -/
theorem scenario_layer_write_back :
    ∃ d d'', (ltdcStart fieldHeader scenarioConfig).run (ltdcInit zeroRegs LTDCD1) = .ok ((), d) ∧
      (do let c ← ltdcBgGetLayerI ltdc_invalid_frame
          ltdcBgSetConfigI fieldHeader (some c)).run d = .ok ((), d'') ∧
      (d.layer .bg).WHPCR &&& LTDC_LxWHPCR_WHSTPOS = 43 ∧
      (d''.layer .bg).WHPCR &&& LTDC_LxWHPCR_WHSTPOS = 86 ∧ (d''.layer .bg).WHPCR ≠ (d.layer .bg).WHPCR := by
  refine ⟨_, _, rfl, rfl, by decide, ?_⟩
  refine (ltdcXxGetLayerI_ltdcXxSetConfigI_moves_window fieldHeader .bg _
    (?_ : _ = some scenarioConfig) ?_ ?_ ltdc_invalid_frame _ ?_).imp_left fun h => h.trans ?_
  all_goals first | rfl | decide

end Ltdc
