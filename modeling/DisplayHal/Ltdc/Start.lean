import DisplayHal.Ltdc.Framebuffer
import DisplayHal.Ltdc.Palette
import DisplayHal.Ltdc.Window

/-!
# Starting the controller

`ltdcStart` checks and programs the timings, the global flags, the clear colour and
both layers, enables the interrupts whose callbacks are set, and forces three
immediate reloads. This module says what a start does and when it halts.

* The timings pass their checks for every configuration within the header's ranges,
  single and accumulated, and the active window they cache is the one the spec gives
  (`ltdcStartTimings_run`), for a header whose limits fit the registers
  (`LtdcHeader.Fits`).
* A start that returns leaves the driver `READY`, running its configuration, with the
  interrupt sources of `ltdcStartFlags` enabled, no reload pending and `RRIF` raised by
  the last reload (`ltdcStart_run_ok`).
* A start programs each layer through `ltdcXxSetConfigI`, on whatever the block held
  before, and it does not reset the blocks. A layer descriptor with a palette is
  therefore refused whenever the block's `CR` has a bit other than `LEN` set, as it has
  after a previous run that enabled the palette; and an `AL88` frame is refused by
  `ltdcBitsPerPixel` (`ltdcStart_refuses_valid_layer`).
-/

namespace Ltdc

/-! ## Valid configurations -/

/-- What the driver's arithmetic needs of the header's limits, as the device's have
them: a synchronisation pulse of at least one clock, and accumulated totals that fit
the 16-bit corners of the active window. -/
structure LtdcHeader.Fits (H : LtdcHeader) : Prop where
  min_hsync : 1 ≤ H.LTDC_MIN_HSYNC_WIDTH
  min_vsync : 1 ≤ H.LTDC_MIN_VSYNC_HEIGHT
  max_total_width : H.LTDC_MAX_ACC_TOTAL_WIDTH < 2 ^ 16
  max_total_height : H.LTDC_MAX_ACC_TOTAL_HEIGHT < 2 ^ 16

/-- The spec's ranges of a configuration's timings: each field within its limits, and
each accumulated width and height within the limits of its register. -/
structure LTDCConfig.TimingsValid (H : LtdcHeader) (C : LTDCConfig) : Prop where
  hsync : H.LTDC_MIN_HSYNC_WIDTH ≤ C.hsync_width ∧ C.hsync_width ≤ H.LTDC_MAX_HSYNC_WIDTH
  vsync : H.LTDC_MIN_VSYNC_HEIGHT ≤ C.vsync_height ∧ C.vsync_height ≤ H.LTDC_MAX_VSYNC_HEIGHT
  hbp : H.LTDC_MIN_HBP_WIDTH ≤ C.hbp_width ∧ C.hbp_width ≤ H.LTDC_MAX_HBP_WIDTH
  vbp : H.LTDC_MIN_VBP_HEIGHT ≤ C.vbp_height ∧ C.vbp_height ≤ H.LTDC_MAX_VBP_HEIGHT
  acc_hbp : H.LTDC_MIN_ACC_HBP_WIDTH ≤ C.hsync_width + C.hbp_width ∧
    C.hsync_width + C.hbp_width ≤ H.LTDC_MAX_ACC_HBP_WIDTH
  acc_vbp : H.LTDC_MIN_ACC_VBP_HEIGHT ≤ C.vsync_height + C.vbp_height ∧
    C.vsync_height + C.vbp_height ≤ H.LTDC_MAX_ACC_VBP_HEIGHT
  width : H.LTDC_MIN_SCREEN_WIDTH ≤ C.screen_width ∧ C.screen_width ≤ H.LTDC_MAX_SCREEN_WIDTH
  height : H.LTDC_MIN_SCREEN_HEIGHT ≤ C.screen_height ∧ C.screen_height ≤ H.LTDC_MAX_SCREEN_HEIGHT
  acc_active_width : H.LTDC_MIN_ACC_ACTIVE_WIDTH ≤ C.hsync_width + C.hbp_width + C.screen_width ∧
    C.hsync_width + C.hbp_width + C.screen_width ≤ H.LTDC_MAX_ACC_ACTIVE_WIDTH
  acc_active_height : H.LTDC_MIN_ACC_ACTIVE_HEIGHT ≤
      C.vsync_height + C.vbp_height + C.screen_height ∧
    C.vsync_height + C.vbp_height + C.screen_height ≤ H.LTDC_MAX_ACC_ACTIVE_HEIGHT
  hfp : H.LTDC_MIN_HFP_WIDTH ≤ C.hfp_width ∧ C.hfp_width ≤ H.LTDC_MAX_HFP_WIDTH
  vfp : H.LTDC_MIN_VFP_HEIGHT ≤ C.vfp_height ∧ C.vfp_height ≤ H.LTDC_MAX_VFP_HEIGHT
  acc_total_width : H.LTDC_MIN_ACC_TOTAL_WIDTH ≤
      C.hsync_width + C.hbp_width + C.screen_width + C.hfp_width ∧
    C.hsync_width + C.hbp_width + C.screen_width + C.hfp_width ≤ H.LTDC_MAX_ACC_TOTAL_WIDTH
  acc_total_height : H.LTDC_MIN_ACC_TOTAL_HEIGHT ≤
      C.vsync_height + C.vbp_height + C.screen_height + C.vfp_height ∧
    C.vsync_height + C.vbp_height + C.screen_height + C.vfp_height ≤ H.LTDC_MAX_ACC_TOTAL_HEIGHT

/-- The spec's active window of a configuration: from the end of the back porch to the
last active pixel, inclusive. -/
def LTDCConfig.activeWindow (C : LTDCConfig) : LtdcWindow :=
  ⟨C.hsync_width + C.hbp_width, C.hsync_width + C.hbp_width + C.screen_width - 1,
    C.vsync_height + C.vbp_height, C.vsync_height + C.vbp_height + C.screen_height - 1⟩

/-- The spec's valid layer descriptor for a configuration: a valid frame, a window with
its corners in order on the screen, and a palette of at most 256 colours whose pointer
is `NULL` exactly when it is empty. -/
structure LtdcLaycfg.Valid (H : LtdcHeader) (C : LTDCConfig) (c : LtdcLaycfg) : Prop where
  frame : ∃ f, c.frame = some f ∧ f.Valid H C
  window : ∃ w, c.window = some w ∧ w.hstart ≤ w.hstop ∧ w.hstop < C.screen_width ∧
    w.vstart ≤ w.vstop ∧ w.vstop < C.screen_height
  palette : c.pal_length ≤ LTDC_MAX_PALETTE_LENGTH ∧ (c.pal_colors = none ↔ c.pal_length = 0)

/-! ## Runs of a call -/

@[simp] theorem Call.runAlone_ret (W : Bool) : Call.ret.runAlone W = pure () := rfl

@[simp] theorem Call.runAlone_seg (W : Bool) (m : DriverM Unit) (k : Call) :
    (Call.seg m k).runAlone W = m >>= fun _ => k.runAlone W := rfl

@[simp] theorem Call.runAlone_poll (W : Bool) (mask : Nat) (k : Call) :
    (Call.poll mask k).runAlone W = modifyHw (Regs.commit mask) >>= fun _ => k.runAlone W := rfl

/-! ## What a driver operation leaves alone -/

/-- A layer method keeps what no write of its block changes. -/
theorem Frame.layerMethod {α β : Type} {f : LTDCDriver → α} (L : LayerId)
    (m : LayerCtx → LayerM β) (hf : ∀ d lr, f (d.setLayer L lr) = f d) : Frame f (onLayer L m) := by
  intro d b d' h
  obtain ⟨lr, -, rfl⟩ := onLayer_run_ok h
  exact hf d lr

theorem subU32_of_le {x c : Nat} (h : c ≤ x) : subU32 x c = x - c := if_pos h

/-! ## Reload commits -/

theorem Regs.commit_of_not_pending {r : Regs} {bits : Nat} (h : r.SRCR &&& bits = 0) :
    r.commit bits = r := by
  simp [Regs.commit, h]

/-- A commit leaves none of the requests it commits pending. -/
theorem Regs.commit_not_pending (r : Regs) (bits : Nat) (hb : bits < 2 ^ 32) :
    (r.commit bits).SRCR &&& bits = 0 := by
  unfold Regs.commit
  split
  · apply Nat.eq_of_testBit_eq
    intro i
    simp only [Nat.testBit_and, testBit_compl32 hb, Nat.zero_testBit]
    cases bits.testBit i <;> simp
  · rename_i h
    exact not_not.mp h

/-- A commit of a pending request raises `RRIF`. -/
theorem Regs.commit_ISR {r : Regs} {bits : Nat} (h : r.SRCR &&& bits ≠ 0) :
    (r.commit bits).ISR = r.ISR ||| LTDC_ISR_RRIF := by
  simp [Regs.commit, h]

/-- A commit touches `SRCR` and `ISR` only. -/
theorem Regs.commit_frame {α : Type} (f : Regs → α)
    (hf : ∀ r s i, f { r with SRCR := s, ISR := i } = f r) (r : Regs) (bits : Nat) :
    f (r.commit bits) = f r := by
  unfold Regs.commit
  split
  · exact hf _ _ _
  · rfl

@[simp] theorem Regs.commit_IER (r : Regs) (bits : Nat) : (r.commit bits).IER = r.IER :=
  Regs.commit_frame Regs.IER (fun _ _ _ => rfl) r bits

@[simp] theorem Regs.commit_GCR (r : Regs) (bits : Nat) : (r.commit bits).GCR = r.GCR :=
  Regs.commit_frame Regs.GCR (fun _ _ _ => rfl) r bits

@[simp] theorem Regs.commit_layer1 (r : Regs) (bits : Nat) : (r.commit bits).layer1 = r.layer1 :=
  Regs.commit_frame Regs.layer1 (fun _ _ _ => rfl) r bits

/-- An immediate request just made is pending. -/
theorem imr_pending (x : Nat) : (x ||| LTDC_SRCR_IMR) &&& (LTDC_SRCR_IMR ||| LTDC_SRCR_VBR) ≠ 0 := by
  intro h0
  simpa [Nat.testBit_and, Nat.testBit_or, LTDC_SRCR_IMR, LTDC_SRCR_VBR] using
    congrArg (Nat.testBit · 0) h0

/-- Committing both requests is committing `IMR`, then `VBR`. -/
theorem Regs.commit_both (r : Regs) :
    r.commit (LTDC_SRCR_IMR ||| LTDC_SRCR_VBR) =
      (r.commit LTDC_SRCR_IMR).commit LTDC_SRCR_VBR := by
  have hc : ∀ x, x &&& compl32 (LTDC_SRCR_IMR ||| LTDC_SRCR_VBR) =
      x &&& compl32 LTDC_SRCR_IMR &&& compl32 LTDC_SRCR_VBR := fun x => by
    rw [Nat.and_assoc]; rfl
  have hv : r.SRCR &&& compl32 LTDC_SRCR_IMR &&& LTDC_SRCR_VBR = r.SRCR &&& LTDC_SRCR_VBR := by
    rw [Nat.and_assoc]; rfl
  have hdrop : ∀ m m', m < 2 ^ 32 → compl32 m' < 2 ^ 32 → compl32 m' &&& m = m →
      r.SRCR &&& m = 0 → r.SRCR &&& compl32 m' &&& compl32 m = r.SRCR &&& compl32 m' :=
    fun _ _ hm hm' hmm h0 => and_compl32_of_and_eq_zero hm (Nat.and_lt_two_pow _ hm')
      (by rw [Nat.and_assoc, hmm, h0])
  unfold Regs.commit
  by_cases h1 : r.SRCR &&& LTDC_SRCR_IMR = 0 <;> by_cases h2 : r.SRCR &&& LTDC_SRCR_VBR = 0
  · simp [Nat.and_or_distrib_left, lor_eq_zero_iff, h1, h2]
  · have e := hdrop LTDC_SRCR_IMR LTDC_SRCR_VBR (by decide) (by decide) (by decide) h1
    rw [Nat.and_assoc, Nat.and_comm (compl32 _), ← Nat.and_assoc] at e
    simp [Nat.and_or_distrib_left, lor_eq_zero_iff, h1, h2, hc, e]
  · have e := hdrop LTDC_SRCR_VBR LTDC_SRCR_IMR (by decide) (by decide) (by decide) h2
    simp [Nat.and_or_distrib_left, lor_eq_zero_iff, h1, h2, hc, hv, e]
  · simp [Nat.and_or_distrib_left, lor_eq_zero_iff, h1, h2, hc, hv, Nat.or_assoc]

@[simp] theorem modifyHw_run (f : Regs → Regs) (d : LTDCDriver) :
    (modifyHw f).run d = .ok ((), { d with hw := f d.hw }) := rfl

@[simp] theorem setState_run (st : LtdcState) (d : LTDCDriver) :
    (setState st).run d = .ok ((), { d with state := st }) := rfl

theorem ltdcStartBegin_run {C : LTDCConfig} {d : LTDCDriver} (hd : d.state = .stop) :
    (ltdcStartBegin C).run d =
      .ok ((), { d with config := some C, hw := { d.hw with GCR := 0, IER := 0 } }) := by
  simp [ltdcStartBegin, StateT.run_bind, hd]

/-! ## Timings -/

/-- The `uint32_t` accumulators of the timings, from `sync - 1`, are the spec's sums less
one, and adding one back gives the sums, when the total fits 16 bits. -/
theorem acc_sums {s b a f : Nat} (h1 : 1 ≤ s) (ht : s + b + a + f < 2 ^ 16) :
    (s - 1 + b) % 2 ^ 32 = s + b - 1 ∧ (s + b - 1 + 1) % 2 ^ 32 = s + b ∧
      (s + b - 1 + 1) % 2 ^ 16 = s + b ∧ (s + b - 1 + a) % 2 ^ 32 = s + b + a - 1 ∧
      (s + b + a - 1 + 1) % 2 ^ 32 = s + b + a ∧ (s + b + a - 1) % 2 ^ 16 = s + b + a - 1 ∧
      (s + b + a - 1 + f) % 2 ^ 32 = s + b + a + f - 1 ∧
      (s + b + a + f - 1 + 1) % 2 ^ 32 = s + b + a + f := by
  omega

/-- Within the ranges, the timings pass every check, cache the spec's active window and
write the four timing registers and nothing else. -/
theorem ltdcStartTimings_run {H : LtdcHeader} {C : LTDCConfig} (hH : H.Fits)
    (hC : C.TimingsValid H) (d : LTDCDriver) :
    ∃ sscr bpcr awcr twcr, (ltdcStartTimings H C).run d = .ok ((), { d with
      active_window := C.activeWindow
      hw := { d.hw with SSCR := sscr, BPCR := bpcr, AWCR := awcr, TWCR := twcr } }) := by
  obtain ⟨h1, h2, h3, h4⟩ := hH
  obtain ⟨⟨a1, a2⟩, ⟨b1, b2⟩, ⟨c1, c2⟩, ⟨e1, e2⟩, ⟨f1, f2⟩, ⟨g1, g2⟩, ⟨i1, i2⟩, ⟨j1, j2⟩,
    ⟨k1, k2⟩, ⟨l1, l2⟩, ⟨m1, m2⟩, ⟨n1, n2⟩, ⟨o1, o2⟩, ⟨p1, p2⟩⟩ := hC
  have hs : subU32 C.hsync_width 1 = C.hsync_width - 1 := subU32_of_le (a1.trans' h1)
  have vs : subU32 C.vsync_height 1 = C.vsync_height - 1 := subU32_of_le (b1.trans' h2)
  obtain ⟨hb, hb1, hb16, ha, ha1, ha16, ht, ht1⟩ := acc_sums (h1.trans a1) (o2.trans_lt h3)
  obtain ⟨vb, vb1, vb16, va, va1, va16, vt, vt1⟩ := acc_sums (h2.trans b1) (p2.trans_lt h4)
  simp only [ltdcStartTimings, assertRange, modifyHw, StateT.run_bind, chDbgAssert_run,
    StateT.run_modify, ge_iff_le, pure_bind, hs, vs, hb, vb, hb1, vb1, hb16, vb16, ha, va, ha1, va1,
    ha16, va16, ht, vt, ht1, vt1, a1, a2, b1, b2, c1, c2, e1, e2, f1, f2, g1, g2, i1, i2, j1, j2,
    k1, k2, l1, l2, m1, m2, n1, n2, o1, o2, p1, p2, if_true, ok_bind]
  exact ⟨_, _, _, _, rfl⟩

/-- The timings leave everything but the active window and the timing registers. -/
theorem ltdcStartTimings_frame (H : LtdcHeader) (C : LTDCConfig) :
    Frame (fun d : LTDCDriver => (d.state, d.config, d.thread, d.hw.GCR, d.hw.SRCR, d.hw.IER,
      d.hw.ISR, d.hw.layer1, d.hw.layer2)) (ltdcStartTimings H C) := by
  unfold ltdcStartTimings assertRange modifyHw
  repeat (first
    | with_reducible refine Frame.bind ?_ fun _ => ?_
    | with_reducible exact Frame.chDbgAssert _ _
    | with_reducible exact Frame.modify fun _ => rfl)

/-! ## A start that returns -/

/-- A start that returns leaves the driver `READY` and running its configuration, the
waiter as it was, the interrupt sources of `ltdcStartFlags` enabled, no reload pending,
and `RRIF` raised by the last of its reloads. -/
theorem ltdcStart_run_ok {H : LtdcHeader} {C : LTDCConfig} {d d' : LTDCDriver}
    (h : (ltdcStart H C).run d = .ok ((), d')) :
    d'.state = .ready ∧ d'.config = some C ∧ d'.thread = d.thread ∧
      d'.hw.IER = ltdcStartFlags C ∧ d'.hw.ISR &&& LTDC_ISR_RRIF ≠ 0 ∧
      d'.hw.SRCR &&& (LTDC_SRCR_IMR ||| LTDC_SRCR_VBR) = 0 := by
  simp only [ltdcStart, ltdcStartCall, ltdc_force_reload_s, Call.runAlone_seg,
    Call.runAlone_poll, Call.runAlone_ret] at h
  obtain ⟨_, d₁, h₁, h⟩ := run_bind_ok h
  obtain ⟨_, d₂, h₂, h⟩ := run_bind_ok h
  obtain ⟨_, d₃, h₃, h⟩ := run_bind_ok h
  obtain ⟨_, d₄, h₄, h⟩ := run_bind_ok h
  obtain ⟨_, d₅, h₅, h⟩ := run_bind_ok h
  obtain ⟨_, d₆, h₆, h⟩ := run_bind_ok h
  obtain ⟨_, d₇, h₇, h⟩ := run_bind_ok h
  obtain ⟨_, d₈, h₈, h⟩ := run_bind_ok h
  have hc₁ : d₁.config = some C ∧ d₁.thread = d.thread := by
    simp only [ltdcStartBegin, modifyHw, StateT.run_bind, chDbgAssert_run, StateT.run_modify,
      StateT.run_get, pure_bind] at h₁
    split at h₁ <;> cases h₁
    exact ⟨rfl, rfl⟩
  have F : ∀ {m : DriverM Unit} {x y : LTDCDriver}, m.run x = .ok ((), y) →
      Frame (fun d : LTDCDriver => (d.config, d.thread)) m →
      (y.config, y.thread) = (x.config, x.thread) := fun h hf => hf _ _ _ h
  have hc₈ : (d₈.config, d₈.thread) = (d₁.config, d₁.thread) :=
    (F h₈ (Frame.layerMethod _ _ fun _ _ => rfl)).trans <|
    (F h₇ (Frame.layerMethod _ _ fun _ _ => rfl)).trans <|
    (F h₆ (Frame.modify fun _ => rfl)).trans <| (F h₅ (Frame.modify fun _ => rfl)).trans <|
    (F h₄ (Frame.comp (fun p => (p.2.1, p.2.2.1)) (ltdcStartTimings_frame H C))).trans <|
    (F h₃ (Frame.modify fun _ => rfl)).trans (F h₂ (Frame.modify fun _ => rfl))
  simp only [modifyHw, setState, ltdcStartEnable, StateT.run_bind, StateT.run_modify, pure_bind,
    StateT.run_pure] at h
  cases h
  simp only [Prod.mk.injEq] at hc₈
  refine ⟨rfl, hc₈.1.trans hc₁.1, hc₈.2.trans hc₁.2, by simp, ?_, ?_⟩
  · rw [Regs.commit_ISR (imr_pending _), lor_and_self]
    decide
  · exact Regs.commit_not_pending _ _ (by decide)

/-! ## Layers at start -/

theorem ltdcXxSetWindowI_run {ctx : LayerCtx} {cfg : LTDCConfig} (hcfg : ctx.config = some cfg)
    {w : LtdcWindow} (h1 : w.hstop < cfg.screen_width) (h2 : w.vstop < cfg.screen_height)
    (h3 : w.hstop + ctx.active_window.hstart ≤ ctx.active_window.hstop)
    (h4 : w.vstop + ctx.active_window.vstart ≤ ctx.active_window.vstop) (lr : LayerRegs) :
    (ltdcXxSetWindowI ctx (some w)).run lr = .ok ((), { lr with
      WHPCR := (((w.hstart + ctx.active_window.hstart) <<< 0) &&& LTDC_LxWHPCR_WHSTPOS) |||
        (((w.hstop + ctx.active_window.hstart) <<< 16) &&& LTDC_LxWHPCR_WHSPPOS)
      WVPCR := (((w.vstart + ctx.active_window.vstart) <<< 0) &&& LTDC_LxWVPCR_WVSTPOS) |||
        (((w.vstop + ctx.active_window.vstart) <<< 16) &&& LTDC_LxWVPCR_WVSPPOS) }) :=
  (ltdcXxSetWindowI_ok hcfg w lr _).2 ⟨⟨h1, h2, h3, h4⟩, rfl⟩

/-- A valid layer descriptor whose window fits the active window, with a palette, is
refused on a block whose `CR` has a bit other than `LEN` set; its frame and window are
written first. -/
theorem ltdcXxSetConfigI_palette_refused {H : LtdcHeader} {ctx : LayerCtx} {C : LTDCConfig}
    (hcfg : ctx.config = some C) {c : LtdcLaycfg} (hc : c.Valid H C)
    (hfmt : ∀ f, c.frame = some f → f.fmt ≠ LTDC_FMT_AL88)
    (haw : ∀ w, c.window = some w → w.hstop + ctx.active_window.hstart ≤ ctx.active_window.hstop ∧
      w.vstop + ctx.active_window.vstart ≤ ctx.active_window.vstop)
    (hpal : 0 < c.pal_length) {lr : LayerRegs} (hcr : lr.CR &&& compl32 LTDC_LxCR_LEN ≠ 0) :
    (ltdcXxSetConfigI H ctx (some c)).run lr = .error (.own "SetPaletteI(), #2") := by
  obtain ⟨f, hf, hfv⟩ := hc.frame
  obtain ⟨w, hw, -, hw1, -, hw2⟩ := hc.window
  obtain ⟨hw3, hw4⟩ := haw w hw
  simp [ltdcXxSetConfigI, hf, hw, StateT.run_bind, hc.palette.2,
    ltdcXxSetFrameI_run H hcfg hfv (hfmt f hf), ltdcXxSetWindowI_run hcfg hw1 hw2 hw3 hw4,
    ltdcXxSetDefaultColorI, ltdcXxSetKeyingColorI, ltdcXxSetConstantAlphaI,
    ltdcXxSetBlendingFactorsI, hpal, ltdcXxSetPaletteI_run hc.palette.2 hc.palette.1, hcr]

/-- A layer descriptor with an `AL88` frame is refused by `ltdcBitsPerPixel`. -/
theorem ltdcXxSetConfigI_al88 (H : LtdcHeader) (ctx : LayerCtx) {c : LtdcLaycfg}
    (hpal : c.pal_colors = none ↔ c.pal_length = 0) {f : LtdcFrame} (hf : c.frame = some f)
    (hal : f.fmt = LTDC_FMT_AL88) (lr : LayerRegs) :
    (ltdcXxSetConfigI H ctx (some c)).run lr = .error (.panic "ltdcBitsPerPixel(), #1") := by
  simp [ltdcXxSetConfigI, hf, StateT.run_bind, hpal, ltdcXxSetFrameI_al88 H ctx hal]

/-! ## The background layer at start -/

/-- A start from `STOP` within the ranges programs its background layer on the block it
found, in the spec's active window, and halts as that does. -/
theorem ltdcStart_error_of_bg {H : LtdcHeader} (hH : H.Fits) {C : LTDCConfig}
    (hC : C.TimingsValid H) {d : LTDCDriver} (hd : d.state = .stop) {e : LayerFault}
    (he : (ltdcXxSetConfigI H ⟨some C, C.activeWindow⟩ C.bg_laycfg).run (d.layer .bg) = .error e) :
    (ltdcStart H C).run d = .error (e.toFault .bg) := by
  choose sscr bpcr awcr twcr htim using ltdcStartTimings_run hH hC
  simp only [ltdcStart, ltdcStartCall, ltdc_force_reload_s, Call.runAlone_seg, Call.runAlone_poll,
    ltdcSetEnableFlagsI, ltdcSetClearColorI, ltdcBgSetConfigI]
  rw [run_bind_of_ok (ltdcStartBegin_run hd), run_bind_of_ok (modifyHw_run _ _),
    run_bind_of_ok (modifyHw_run _ _), run_bind_of_ok (htim _), run_bind_of_ok (modifyHw_run _ _),
    run_bind_of_ok (modifyHw_run _ _), StateT.run_bind, onLayer_run]
  simp only [LTDCDriver.ctx, LTDCDriver.layer, Regs.layer, Regs.commit_layer1] at he ⊢
  erw [he]
  rfl

/-- For a header whose limits fit the registers, a configuration within the timing
ranges and a valid background layer descriptor, a start from `STOP` halts: in
`ltdcBitsPerPixel` when the descriptor's frame is `AL88`; and otherwise, when the
descriptor has a palette and the background block's `CR` has a bit other than `LEN` set,
as a previous run that enabled the palette leaves it, on the palette's disabled check. -/
theorem ltdcStart_refuses_valid_layer (H : LtdcHeader) (hH : H.Fits) (C : LTDCConfig)
    (hC : C.TimingsValid H) (c : LtdcLaycfg) (hbg : C.bg_laycfg = some c) (hc : c.Valid H C)
    (d : LTDCDriver) (hd : d.state = .stop) :
    ((∃ f, c.frame = some f ∧ f.fmt = LTDC_FMT_AL88) →
      (ltdcStart H C).run d = .error (.panic "ltdcBitsPerPixel(), #1")) ∧
    ((∀ f, c.frame = some f → f.fmt ≠ LTDC_FMT_AL88) → 0 < c.pal_length →
      (d.layer .bg).CR &&& compl32 LTDC_LxCR_LEN ≠ 0 →
      (ltdcStart H C).run d = .error (.layerPanic .bg "SetPaletteI(), #2")) := by
  refine ⟨fun ⟨f, hf, hal⟩ => ?_, fun hfmt hpal hcr => ?_⟩
  · exact ltdcStart_error_of_bg hH hC hd (hbg ▸ ltdcXxSetConfigI_al88 H _ hc.palette.2 hf hal _)
  · have hfit : ∀ w, c.window = some w →
        w.hstop + C.activeWindow.hstart ≤ C.activeWindow.hstop ∧
          w.vstop + C.activeWindow.vstart ≤ C.activeWindow.vstop := by
      obtain ⟨w, hw, -, h1, -, h2⟩ := hc.window
      intro w' hw'
      cases hw.symm.trans hw'
      simp only [LTDCConfig.activeWindow]
      omega
    exact ltdcStart_error_of_bg hH hC hd
      (hbg ▸ ltdcXxSetConfigI_palette_refused rfl hc hfmt hfit hpal hcr)

/-! ## A restart -/

/-- A background layer that fills the scenario panel from an RGB-565 frame, with a
one-colour palette, enabled with its CLUT. -/
def paletteLaycfg : LtdcLaycfg :=
  ⟨some ⟨0xD0000000, 480, 272, 960, LTDC_FMT_RGB565⟩, some ⟨0, 479, 0, 271⟩, LTDC_COLOR_BLACK,
    0xFF, LTDC_COLOR_BLACK, some [0xFF0000], 1, 0x0405, LTDC_LxCR_LEN ||| LTDC_LxCR_CLUTEN⟩

/-- The scenario panel with `paletteLaycfg` as its background layer. -/
def paletteConfig : LTDCConfig := { scenarioConfig with bg_laycfg := some paletteLaycfg }

/-- The first start of `paletteConfig` after `ltdcInit` ends `READY`, and so does the
stop after it; the start that follows halts on the palette's disabled check, since the
first run left `CLUTEN` set in the background block. -/
theorem palette_layer_restart_refused :
    ∃ d₁ d₂, (ltdcStart fieldHeader paletteConfig).run (ltdcInit zeroRegs LTDCD1) = .ok ((), d₁) ∧
      d₁.state = .ready ∧ (ltdcStop false 0).run d₁ = .ok ((), d₂) ∧ d₂.state = .stop ∧
      (ltdcStart fieldHeader paletteConfig).run d₂ = .error (.layerPanic .bg "SetPaletteI(), #2") := by
  refine ⟨_, _, rfl, rfl, rfl, rfl, ?_⟩
  refine (ltdcStart_refuses_valid_layer fieldHeader ⟨by decide, by decide, by decide, by decide⟩
    paletteConfig ?_ paletteLaycfg rfl ⟨⟨_, rfl, ?_⟩, ⟨_, rfl, ?_⟩, ?_⟩ _ rfl).2 ?_ ?_ ?_
  · constructor <;> decide
  · constructor <;> decide
  · decide
  · decide
  · rintro f ⟨⟩
    decide
  · decide
  · decide

end Ltdc
