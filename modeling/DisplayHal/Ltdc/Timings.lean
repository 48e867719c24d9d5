import DisplayHal.Ltdc.Waiter

/-!
# The timing registers follow the configuration

`ltdcStart` checks the timings of its configuration against the header's limits, one by
one and accumulated, writes the accumulated values to `SSCR`, `BPCR`, `AWCR` and `TWCR`,
and caches the active window that the layer methods read; it then programs the layers
and commits. For a header whose limits the controller's fields hold
(`LtdcHeader.FitsRegisters`):

* the timings return only for a configuration within the spec's ranges, and then the
  active window is the spec's and each timing register holds the controller's encoding of
  its accumulated width and height (`ltdcStartTimings_run_ok`): the `uint32_t`
  accumulators never wrap (`acc_no_wrap`) and the fields truncate nothing (`timing_regs`);
* no other operation writes the configuration, the active window or a timing register
  (`Api.call_frames`), and the reloads, the controller's commits and the interrupt
  handlers write nothing but the state, the waiter slot, `SRCR` and `ISR`
  (`LTDCDriver.setup`, `LTDC_EV_IRQHandler_setup`, `Call.guarded_ltdcReloadSCall`).

Where a thread stands inside `ltdcStart` is carried by `StartPos`. So in every run in
which no thread calls `ltdcStart` while another is inside it (`SerialStep`), whenever no
thread is inside `ltdcStart`, the driver's configuration, if it has one, is within the
ranges, and its active window and the timing registers are those of its timings
(`ltdc_timings_follow_config`). The starts must be serialised: a start leaves the driver
`STOP` until its last stretch, so a second start passes the state check while the first
waits at a poll, and the two then write the configuration and the timings in turn.
-/

namespace Ltdc

/-! ## The controller's encoding of the timings -/

/-- A timing register as the controller reads it: an accumulated width less one in bits
27..16 and an accumulated height less one in bits 10..0. -/
def timingField (w h : Nat) : Nat := 2 ^ 16 * (w - 1) + (h - 1)

/-- The spec's `SSCR`, `BPCR`, `AWCR` and `TWCR` for a configuration: the synchronisation
pulse, then the back porch, the active area and the front porch, each added to the ones
before. -/
def LTDCConfig.timingRegs (C : LTDCConfig) : Nat × Nat × Nat × Nat :=
  (timingField C.hsync_width C.vsync_height,
    timingField (C.hsync_width + C.hbp_width) (C.vsync_height + C.vbp_height),
    timingField (C.hsync_width + C.hbp_width + C.screen_width)
      (C.vsync_height + C.vbp_height + C.screen_height),
    timingField (C.hsync_width + C.hbp_width + C.screen_width + C.hfp_width)
      (C.vsync_height + C.vbp_height + C.screen_height + C.vfp_height))

/-- A header whose limits the controller's registers hold: each single timing below
`2^16`, and the total width and height within the 12-bit and 11-bit fields of `TWCR`,
hence every accumulated value within its field. -/
structure LtdcHeader.FitsRegisters (H : LtdcHeader) extends H.Fits : Prop where
  hsync : H.LTDC_MAX_HSYNC_WIDTH < 2 ^ 16
  vsync : H.LTDC_MAX_VSYNC_HEIGHT < 2 ^ 16
  hbp : H.LTDC_MAX_HBP_WIDTH < 2 ^ 16
  vbp : H.LTDC_MAX_VBP_HEIGHT < 2 ^ 16
  width : H.LTDC_MAX_SCREEN_WIDTH < 2 ^ 16
  height : H.LTDC_MAX_SCREEN_HEIGHT < 2 ^ 16
  hfp : H.LTDC_MAX_HFP_WIDTH < 2 ^ 16
  vfp : H.LTDC_MAX_VFP_HEIGHT < 2 ^ 16
  total_width : H.LTDC_MAX_ACC_TOTAL_WIDTH ≤ 2 ^ 12
  total_height : H.LTDC_MAX_ACC_TOTAL_HEIGHT ≤ 2 ^ 11

theorem fieldHeader_fitsRegisters : fieldHeader.FitsRegisters :=
  ⟨⟨by decide, by decide, by decide, by decide⟩, by decide, by decide, by decide, by decide,
    by decide, by decide, by decide, by decide, by decide, by decide⟩

/-- A timing register as `ltdcStart` writes it: `w` truncated to bits 27..16 and `h` to
bits 10..0. -/
theorem timing_reg_eq (w h : Nat) :
    ((w <<< 16) &&& 0xFFF0000) ||| ((h <<< 0) &&& 0x7FF) = h % 2 ^ 11 + w % 2 ^ 12 * 2 ^ 16 := by
  have hhi : (w <<< 16) &&& 0xFFF0000 = (w % 2 ^ 12) <<< 16 := by
    rw [show (0xFFF0000 : Nat) = (2 ^ 12 - 1) <<< 16 from rfl, and_field_mask, Nat.shiftLeft_eq,
      Nat.shiftLeft_eq, Nat.mul_div_cancel _ (by positivity)]
  have hlo : (h <<< 0) &&& 0x7FF = h % 2 ^ 11 := by
    rw [Nat.shiftLeft_zero, show (0x7FF : Nat) = 2 ^ 11 - 1 from rfl, and_low_mask]
  rw [hhi, hlo, Nat.or_comm]
  exact or_shiftLeft_eq_add _ _ (by omega)

/-- A timing register written with an accumulated width `w` and height `h`, each less one,
holds the controller's encoding of the pair when they fit its fields. -/
theorem timing_reg {w h : Nat} (hw : 1 ≤ w) (hw' : w ≤ 2 ^ 12) (hh : 1 ≤ h) (hh' : h ≤ 2 ^ 11) :
    (((w - 1) <<< 16) &&& 0xFFF0000) ||| (((h - 1) <<< 0) &&& 0x7FF) = timingField w h := by
  rw [timing_reg_eq, Nat.mod_eq_of_lt (by omega : h - 1 < 2 ^ 11),
    Nat.mod_eq_of_lt (by omega : w - 1 < 2 ^ 12), timingField, Nat.add_comm, Nat.mul_comm]

/-- The four timing registers, written with the accumulated widths `s`, `s + b`, ... and
heights `t`, `t + u`, ..., each less one, hold their encodings when the totals fit the
fields of `TWCR`. -/
theorem timing_regs {s b a f t u c g : Nat} (hs : 1 ≤ s) (hf : s + b + a + f ≤ 2 ^ 12)
    (ht : 1 ≤ t) (hg : t + u + c + g ≤ 2 ^ 11) :
    ((((s - 1) <<< 16) &&& 0xFFF0000) ||| (((t - 1) <<< 0) &&& 0x7FF),
      (((s + b - 1) <<< 16) &&& 0xFFF0000) ||| (((t + u - 1) <<< 0) &&& 0x7FF),
      (((s + b + a - 1) <<< 16) &&& 0xFFF0000) ||| (((t + u + c - 1) <<< 0) &&& 0x7FF),
      (((s + b + a + f - 1) <<< 16) &&& 0xFFF0000) ||| (((t + u + c + g - 1) <<< 0) &&& 0x7FF)) =
    (timingField s t, timingField (s + b) (t + u), timingField (s + b + a) (t + u + c),
      timingField (s + b + a + f) (t + u + c + g)) := by
  rw [timing_reg hs (by omega) ht (by omega), timing_reg (by omega) (by omega) (by omega) (by omega),
    timing_reg (by omega) (by omega) (by omega) (by omega), timing_reg (by omega) hf (by omega) hg]

/-- Within `2^16` timings the `uint32_t` accumulators of `ltdcStart` never wrap: each is
the plain sum less one, and adding one back gives the sum. -/
theorem acc_no_wrap {s b a f : Nat} (h1 : 1 ≤ s) (hs : s < 2 ^ 16) (hb : b < 2 ^ 16)
    (ha : a < 2 ^ 16) (hf : f < 2 ^ 16) :
    (s - 1 + b) % 2 ^ 32 = s + b - 1 ∧ (s + b - 1 + 1) % 2 ^ 32 = s + b ∧
      (s + b - 1 + a) % 2 ^ 32 = s + b + a - 1 ∧ (s + b + a - 1 + 1) % 2 ^ 32 = s + b + a ∧
      (s + b + a - 1 + f) % 2 ^ 32 = s + b + a + f - 1 ∧
      (s + b + a + f - 1 + 1) % 2 ^ 32 = s + b + a + f := by
  obtain ⟨s, rfl⟩ : ∃ s', s = s' + 1 := ⟨s - 1, by omega⟩
  simp only [Nat.add_sub_cancel, Nat.add_right_comm _ 1]
  exact ⟨Nat.mod_eq_of_lt (by omega), Nat.mod_eq_of_lt (by omega), Nat.mod_eq_of_lt (by omega),
    Nat.mod_eq_of_lt (by omega), Nat.mod_eq_of_lt (by omega), Nat.mod_eq_of_lt (by omega)⟩

/-- The active window a start caches, its corners `uint16_t`, is the spec's when the
totals fit 16 bits. -/
theorem timing_window {s b a f t u c g : Nat} (hs : 1 ≤ s) (hf : s + b + a + f < 2 ^ 16)
    (ht : 1 ≤ t) (hg : t + u + c + g < 2 ^ 16) :
    ({ hstart := (s + b - 1 + 1) % 2 ^ 16, hstop := (s + b + a - 1) % 2 ^ 16,
       vstart := (t + u - 1 + 1) % 2 ^ 16, vstop := (t + u + c - 1) % 2 ^ 16 } : LtdcWindow) =
      ⟨s + b, s + b + a - 1, t + u, t + u + c - 1⟩ := by
  rw [Nat.sub_add_cancel (by omega), Nat.sub_add_cancel (by omega), Nat.mod_eq_of_lt (by omega),
    Nat.mod_eq_of_lt (by omega), Nat.mod_eq_of_lt (by omega), Nat.mod_eq_of_lt (by omega)]

/-! ## The timings of a start -/

theorem assertRange_bind_ok {β : Type} {x lo hi : Nat} {m₁ m₂ : String} {k : Unit → DriverM β}
    {d : LTDCDriver} {r : β × LTDCDriver} :
    (assertRange x lo hi m₁ m₂ >>= k).run d = .ok r ↔ (lo ≤ x ∧ x ≤ hi) ∧ (k ()).run d = .ok r := by
  simp only [assertRange, bind_assoc, StateT.run_bind, chDbgAssert_run, ge_iff_le]
  by_cases h₁ : lo ≤ x <;> by_cases h₂ : x ≤ hi <;> simp [h₁, h₂]

theorem modifyHw_bind_run {β : Type} (g : Regs → Regs) (k : Unit → DriverM β) (d : LTDCDriver) :
    (modifyHw g >>= k).run d = (k ()).run { d with hw := g d.hw } :=
  run_bind_of_ok (modifyHw_run g d)

theorem modify_bind_run {β : Type} (g : LTDCDriver → LTDCDriver) (k : PUnit → DriverM β)
    (d : LTDCDriver) : (modify g >>= k).run d = (k ()).run (g d) :=
  run_bind_of_ok rfl

/-- The timings of a start return only for a configuration within the ranges; they keep
the configuration, cache the spec's active window and write the controller's encoding
of the timings. -/
theorem ltdcStartTimings_run_ok {H : LtdcHeader} (hH : H.FitsRegisters) {C : LTDCConfig}
    {d d' : LTDCDriver} (h : (ltdcStartTimings H C).run d = .ok ((), d')) :
    C.TimingsValid H ∧ d'.config = d.config ∧ d'.active_window = C.activeWindow ∧
      (d'.hw.SSCR, d'.hw.BPCR, d'.hw.AWCR, d'.hw.TWCR) = C.timingRegs := by
  simp only [ltdcStartTimings, assertRange_bind_ok, modifyHw_bind_run, modify_bind_run, modifyHw_run,
    Except.ok.injEq, Prod.mk.injEq, true_and] at h
  obtain ⟨⟨a1, a2⟩, ⟨b1, b2⟩, ⟨c1, c2⟩, ⟨e1, e2⟩, ⟨f1, f2⟩, ⟨g1, g2⟩, ⟨i1, i2⟩, ⟨j1, j2⟩,
    ⟨k1, k2⟩, ⟨l1, l2⟩, ⟨m1, m2⟩, ⟨n1, n2⟩, ⟨o1, o2⟩, ⟨p1, p2⟩, rfl⟩ := h
  have hs1 : 1 ≤ C.hsync_width := hH.min_hsync.trans a1
  have vs1 : 1 ≤ C.vsync_height := hH.min_vsync.trans b1
  obtain ⟨hb, hb1, ha, ha1, ht, ht1⟩ := acc_no_wrap hs1 (a2.trans_lt hH.hsync)
    (c2.trans_lt hH.hbp) (i2.trans_lt hH.width) (m2.trans_lt hH.hfp)
  obtain ⟨vb, vb1, va, va1, vt, vt1⟩ := acc_no_wrap vs1 (b2.trans_lt hH.vsync)
    (e2.trans_lt hH.vbp) (j2.trans_lt hH.height) (n2.trans_lt hH.vfp)
  simp only [subU32_of_le hs1, subU32_of_le vs1, hb, hb1, ha, ha1, ht, ht1, vb, vb1, va, va1, vt,
    vt1, LTDC_SSCR_HSW, LTDC_SSCR_VSH, LTDC_BPCR_AHBP, LTDC_BPCR_AVBP, LTDC_AWCR_AAW,
    LTDC_AWCR_AAH, LTDC_TWCR_TOTALW, LTDC_TWCR_TOTALH] at f1 f2 g1 g2 k1 k2 l1 l2 o1 o2 p1 p2 ⊢
  have tw := o2.trans hH.total_width
  have th := p2.trans hH.total_height
  exact ⟨⟨⟨a1, a2⟩, ⟨b1, b2⟩, ⟨c1, c2⟩, ⟨e1, e2⟩, ⟨f1, f2⟩, ⟨g1, g2⟩, ⟨i1, i2⟩, ⟨j1, j2⟩,
    ⟨k1, k2⟩, ⟨l1, l2⟩, ⟨m1, m2⟩, ⟨n1, n2⟩, ⟨o1, o2⟩, ⟨p1, p2⟩⟩, trivial,
    timing_window hs1 (tw.trans_lt (by decide)) vs1 (th.trans_lt (by decide)),
    timing_regs hs1 tw vs1 th⟩

/-- For a header whose limits the controller's fields hold, from any driver state, the
timings of `ltdcStart` return exactly for the configurations within the spec's ranges;
they then cache the spec's active window, write the controller's encoding of the timings
to `SSCR`, `BPCR`, `AWCR` and `TWCR`, and change nothing else. -/
theorem ltdcStartTimings_spec (H : LtdcHeader) (hH : H.FitsRegisters) (C : LTDCConfig)
    (d d' : LTDCDriver) :
    (ltdcStartTimings H C).run d = .ok ((), d') ↔ C.TimingsValid H ∧
      d' = { d with active_window := C.activeWindow, hw := { d.hw with
        SSCR := C.timingRegs.1, BPCR := C.timingRegs.2.1, AWCR := C.timingRegs.2.2.1,
        TWCR := C.timingRegs.2.2.2 } } := by
  constructor
  · intro h
    obtain ⟨hv, -, -, hr⟩ := ltdcStartTimings_run_ok hH h
    obtain ⟨_, _, _, _, h'⟩ := ltdcStartTimings_run hH.toFits hv d
    rw [h] at h'
    cases h'
    exact ⟨hv, by rw [← hr]⟩
  · rintro ⟨hv, rfl⟩
    obtain ⟨_, _, _, _, h⟩ := ltdcStartTimings_run hH.toFits hv d
    obtain ⟨-, -, -, hr⟩ := ltdcStartTimings_run_ok hH h
    rw [h, ← hr]

/-- The scenario panel's timings, run on the zeroed `LTDCD1`, return; its configuration is
within the spec's ranges, and the state they return holds its window and encodings. -/
theorem scenario_timings_spec : fieldHeader.FitsRegisters ∧
    ∃ d', (ltdcStartTimings fieldHeader scenarioConfig).run LTDCD1 = .ok ((), d') ∧
      scenarioConfig.TimingsValid fieldHeader ∧ d' = { LTDCD1 with
        active_window := scenarioConfig.activeWindow, hw := { LTDCD1.hw with
          SSCR := scenarioConfig.timingRegs.1, BPCR := scenarioConfig.timingRegs.2.1,
          AWCR := scenarioConfig.timingRegs.2.2.1, TWCR := scenarioConfig.timingRegs.2.2.2 } } :=
  ⟨fieldHeader_fitsRegisters, _, rfl, (ltdcStartTimings_spec fieldHeader fieldHeader_fitsRegisters
    scenarioConfig LTDCD1 _).1 rfl⟩

/-! ## What the timings fix -/

/-- What the timings of a start set: the configuration and the active window that the
layer methods read, and the four timing registers. -/
def LTDCDriver.timings (d : LTDCDriver) : LayerCtx × Nat × Nat × Nat × Nat :=
  (d.ctx, d.hw.SSCR, d.hw.BPCR, d.hw.AWCR, d.hw.TWCR)

/-- The driver's configuration, if it has one, is within the header's ranges, and the
active window and the timing registers are those of its timings. -/
def Programmed (H : LtdcHeader) (d : LTDCDriver) : Prop :=
  ∀ C, d.config = some C → C.TimingsValid H ∧ d.active_window = C.activeWindow ∧
    (d.hw.SSCR, d.hw.BPCR, d.hw.AWCR, d.hw.TWCR) = C.timingRegs

theorem Programmed.of_timings {H : LtdcHeader} {d d' : LTDCDriver} (h : d'.timings = d.timings)
    (hp : Programmed H d) : Programmed H d' := by
  simp only [LTDCDriver.timings, LTDCDriver.ctx, Prod.mk.injEq, LayerCtx.mk.injEq] at h
  obtain ⟨⟨hc, hw⟩, h₁, h₂, h₃, h₄⟩ := h
  intro C hC
  rw [hc] at hC
  rw [hw, h₁, h₂, h₃, h₄]
  exact hp C hC

/-! ## What the reloads and the interrupt handlers leave -/

/-- The driver but for what the reloads, the controller's commits and the interrupt
handlers write: the state, the waiter slot, `SRCR` and `ISR`. -/
def LTDCDriver.setup (d : LTDCDriver) : Option LTDCConfig × LtdcWindow × Regs :=
  (d.config, d.active_window, { d.hw with SRCR := 0, ISR := 0 })

/-- What the timings of a start set is part of the setup. -/
theorem LTDCDriver.timings_of_setup {d d' : LTDCDriver} (h : d'.setup = d.setup) :
    d'.timings = d.timings :=
  congrArg (fun p : Option LTDCConfig × LtdcWindow × Regs =>
    ((⟨p.1, p.2.1⟩ : LayerCtx), p.2.2.SSCR, p.2.2.BPCR, p.2.2.AWCR, p.2.2.TWCR)) h

theorem LTDCDriver.setup_commit (d : LTDCDriver) (bits : Nat) :
    (d.withHw (d.hw.commit bits)).setup = d.setup :=
  Regs.commit_frame (fun r => (d.withHw r).setup) (fun _ _ _ => rfl) d.hw bits

theorem Frame.of_setup {α β : Type} {f : LTDCDriver → α}
    (hf : ∀ {d d' : LTDCDriver}, d'.setup = d.setup → f d' = f d) {m : DriverM β}
    (hm : Frame LTDCDriver.setup m) : Frame f m :=
  fun d b d' h => hf (hm d b d' h)

theorem Frame.setup_ltdcStartReloadI (immediately : Bool) :
    Frame LTDCDriver.setup (ltdcStartReloadI immediately) :=
  Frame.bind Frame.get fun _ => Frame.bind (Frame.chDbgAssert _ _) fun _ =>
    Frame.bind (Frame.modify fun _ => rfl) fun _ =>
      Frame.ite (Frame.modify fun _ => rfl) (Frame.modify fun _ => rfl)

/-- `LTDC_EV_IRQHandler` writes nothing but `ISR`, the state, which it sets to `READY`, and
the waiter slot, which it empties: it keeps every transitive relation that holds across
such writes. -/
theorem LTDC_EV_IRQHandler_keeps {R : LTDCDriver → LTDCDriver → Prop} [IsTrans LTDCDriver R]
    (hframe : ∀ {β : Type} {m : DriverM β},
      Frame (fun d : LTDCDriver => (d.setup, d.state, d.thread)) m → Keeps R m)
    (hready : ∀ d : LTDCDriver, R d { d with state := .ready })
    (hfree : ∀ d : LTDCDriver, R d { d with thread := none }) (W : Bool) :
    Keeps R (LTDC_EV_IRQHandler W) := by
  have rest : Keeps R (do
      setState .ready
      modifyHw fun r => { r with ISR := r.ISR &&& compl32 LTDC_ISR_RRIF }) :=
    Keeps.bind (Keeps.modify hready) fun _ => hframe (Frame.modify fun _ => rfl)
  unfold LTDC_EV_IRQHandler
  refine Keeps.bind (hframe Frame.get) fun _ => ?_
  dsimp only
  refine Keeps.ite (Keeps.bind (hframe Frame.ltdcConfig) fun _ => Keeps.bind (hframe (Frame.chDbgAssert _ _))
    fun _ => Keeps.bind (hframe (Frame.modify fun _ => rfl)) fun _ => ?_)
    (Keeps.bind (hframe (Frame.pure _)) fun _ => ?_) <;>
  exact Keeps.bind (hframe Frame.get) fun _ => Keeps.ite (Keeps.bind (hframe Frame.ltdcConfig) fun _ =>
    Keeps.bind (hframe (Frame.chDbgAssert _ _)) fun _ => Keeps.ite
      (Keeps.bind (Keeps.modify hfree) fun _ => rest)
      (Keeps.bind (hframe (Frame.pure _)) fun _ => rest)) (hframe (Frame.pure _))

theorem LTDC_EV_IRQHandler_setup (W : Bool) : Frame LTDCDriver.setup (LTDC_EV_IRQHandler W) :=
  have : IsTrans LTDCDriver fun d d' => d'.setup = d.setup := ⟨fun _ _ _ h₁ h₂ => h₂.trans h₁⟩
  LTDC_EV_IRQHandler_keeps (Keeps.of_frame fun _ _ h => congrArg Prod.fst h) (fun _ => rfl)
    (fun _ => rfl) W

/-- `LTDC_ER_IRQHandler` writes only `ISR`. -/
theorem LTDC_ER_IRQHandler_frame {α : Type} {f : LTDCDriver → α}
    (hf : ∀ (d : LTDCDriver) (isr : Nat), f { d with hw := { d.hw with ISR := isr } } = f d) :
    Frame f LTDC_ER_IRQHandler := by
  unfold LTDC_ER_IRQHandler
  refine Frame.bind Frame.get fun _ => ?_
  dsimp only
  refine Frame.ite (Frame.bind Frame.ltdcConfig fun _ => Frame.bind (Frame.chDbgAssert _ _)
    fun _ => Frame.bind (Frame.modify fun _ => hf _ _) fun _ => ?_)
    (Frame.bind (Frame.pure _) fun _ => ?_) <;>
  exact Frame.bind Frame.get fun _ => Frame.ite (Frame.bind Frame.ltdcConfig fun _ =>
    Frame.bind (Frame.chDbgAssert _ _) fun _ => Frame.modify fun _ => hf _ _) (Frame.pure _)

theorem LTDC_ER_IRQHandler_setup : Frame LTDCDriver.setup LTDC_ER_IRQHandler :=
  LTDC_ER_IRQHandler_frame fun _ _ => rfl

/-! ## Calls that keep the timings -/

/-- A call every stretch of which returns only in a state that `R` relates to the one it
started from. -/
def Call.Guarded (R : LTDCDriver → LTDCDriver → Prop) : Call → Prop
  | .ret => True
  | .seg m k => Keeps R m ∧ k.Guarded R
  | .poll _ k => k.Guarded R
  | .sleep k => k.Guarded R

namespace Call.Guarded

variable {R : LTDCDriver → LTDCDriver → Prop}

theorem ret : Call.ret.Guarded R := trivial

theorem seg {m : DriverM Unit} {k : Call} (hm : Keeps R m) (hk : k.Guarded R) : (Call.seg m k).Guarded R :=
  ⟨hm, hk⟩

theorem poll {mask : Nat} {k : Call} (hk : k.Guarded R) : (Call.poll mask k).Guarded R := hk

end Call.Guarded

/-- A thread's run inside a guarded call, for a reflexive and transitive `R`, ends in a
state that `R` relates to the one it started from, and stops in a guarded rest. -/
theorem Call.exec_guarded {R : LTDCDriver → LTDCDriver → Prop} (hrefl : ∀ d, R d d)
    (htrans : ∀ {a b c}, R a b → R b c → R a c) {t : Nat} {c c' : Call} {d d' : LTDCDriver}
    (hc : c.Guarded R) (h : (c.exec t).run d = .ok (c', d')) : R d d' ∧ c'.Guarded R := by
  induction c generalizing d with
  | ret => cases h; exact ⟨hrefl _, trivial⟩
  | seg m k ih =>
    obtain ⟨_, d₁, h₁, h₂⟩ := run_bind_ok h
    exact (ih hc.2 h₂).imp_left (htrans (hc.1 _ _ _ h₁))
  | poll mask k ih =>
    by_cases hp : d.hw.SRCR &&& mask = 0
    · rw [Call.exec_poll_clear t mask k hp] at h
      exact ih hc h
    · rw [Call.exec_poll_pending t mask k hp] at h
      cases h
      exact ⟨hrefl _, hc⟩
  | sleep k ih =>
    by_cases hw : d.thread = some t
    · rw [Call.exec_sleep_waiting t k hw] at h
      cases h
      exact ⟨hrefl _, hc⟩
    · rw [Call.exec_sleep_woken t k hw] at h
      exact ih hc h

/-- A call every stretch of which keeps `f`. -/
def Call.Frames {α : Type} (f : LTDCDriver → α) (c : Call) : Prop := c.Guarded fun d d' => f d' = f d

namespace Call.Frames

variable {α : Type} {f : LTDCDriver → α}

theorem ret : Call.ret.Frames f := trivial

theorem seg {m : DriverM Unit} {k : Call} (hm : Frame f m) (hk : k.Frames f) : (Call.seg m k).Frames f :=
  ⟨hm, hk⟩

theorem poll {mask : Nat} {k : Call} (hk : k.Frames f) : (Call.poll mask k).Frames f := hk

end Call.Frames

/-- A thread's run inside a call that keeps `f` keeps it, and stops in a rest that keeps
it. -/
theorem Call.exec_frames {α : Type} {f : LTDCDriver → α} {t : Nat} {c c' : Call}
    {d d' : LTDCDriver} (hc : c.Frames f) (h : (c.exec t).run d = .ok (c', d')) :
    f d' = f d ∧ c'.Frames f :=
  Call.exec_guarded (R := fun d d' => f d' = f d) (fun _ => rfl) (fun h₁ h₂ => h₂.trans h₁) hc h

/-- The stretches of `ltdcReloadS` write only the state, the waiter slot and `SRCR`: a
relation that holds across every change of those guards the call, given the caller's
own work before and after. -/
theorem Call.guarded_ltdcReloadSCall {R : LTDCDriver → LTDCDriver → Prop}
    (hR : ∀ d d', d'.setup = d.setup → R d d') (W : Bool) (self : Nat) (immediately : Bool)
    {pre post : DriverM Unit} (hpre : Keeps R pre) (hpost : Keeps R post) :
    (ltdcReloadSCall W self immediately pre post).Guarded R := by
  have fr : ∀ {m : DriverM Unit}, Frame LTDCDriver.setup m → Keeps R m := Keeps.of_frame hR
  have hr := fr (Frame.setup_ltdcStartReloadI immediately)
  have hs : ∀ st, Keeps R (setState st) := fun _ => fr (Frame.modify fun _ => rfl)
  unfold ltdcReloadSCall
  split
  · have hn := fr (Frame.bind Frame.get fun _ => Frame.chDbgAssert _ _ : Frame _ assertNoWaiter)
    split
    · exact .seg hpre <| .seg hr <| .seg hn <| .poll <| .seg (hs _) <| .seg hpost .ret
    · exact .seg hpre <| .seg hr <| .seg hn <| .seg (fr (Frame.modify fun _ => rfl)) <| .seg hpost .ret
  · exact .seg hpre <| .seg hr <| .poll <| .seg (hs _) <| .seg hpost .ret

/-- Every public operation but `ltdcStart` keeps the configuration, the active window and
the timing registers. -/
theorem Api.call_frames (W : Bool) (H : LtdcHeader) (self : Nat) (a : Api) (ha : ∀ C, a ≠ .start C) :
    (a.call W H self).Frames LTDCDriver.timings := by
  have hr : ∀ immediately, Frame LTDCDriver.timings (ltdcStartReloadI immediately) := fun _ =>
    Frame.of_setup LTDCDriver.timings_of_setup (Frame.setup_ltdcStartReloadI _)
  cases a with
  | start C => exact absurd rfl (ha C)
  | stop =>
    have hpre : Frame LTDCDriver.timings (do
        chDbgAssert ((← get).state = .ready) (.panic "ltdcStop(), #1")
        modifyHw fun r => { r with GCR := r.GCR &&& compl32 LTDC_GCR_LTDCEN, IER := 0 }) :=
      Frame.bind Frame.get fun _ => Frame.bind (Frame.chDbgAssert _ _) fun _ => Frame.modify fun _ => rfl
    show (ltdcStopCall W self).Frames _
    unfold ltdcStopCall
    split
    · exact Call.guarded_ltdcReloadSCall (fun _ _ => LTDCDriver.timings_of_setup) _ _ _ hpre
        (Frame.modify fun _ => rfl)
    · exact .seg hpre <| .seg (hr _) <| .poll <| .seg (Frame.modify fun _ => rfl) .ret
  | startReload immediately => exact .seg (hr _) .ret
  | reload immediately =>
    exact Call.guarded_ltdcReloadSCall (fun _ _ => LTDCDriver.timings_of_setup) _ _ _ (Frame.pure _)
      (Frame.pure _)
  | layer L op =>
    cases L
    · exact .seg (Frame.discard (ltdcBgOp_eq_onLayer H op ▸ Frame.layerMethod _ _ fun _ _ => rfl)) .ret
    · exact .seg (Frame.discard (ltdcFgOp_eq_onLayer H op ▸ Frame.layerMethod _ _ fun _ _ => rfl)) .ret
  | _ => exact .seg (Frame.modify fun _ => rfl) .ret

/-- `ltdcStart` is its first stretch, which sets the configuration and asks for a reload,
the poll, the timings, and a rest that keeps what the timings set. -/
theorem ltdcStartCall_eq (H : LtdcHeader) (C : LTDCConfig) :
    ∃ k, ltdcStartCall H C =
      .seg (ltdcStartBegin C) (ltdc_force_reload_s (.seg (ltdcStartTimings H C) k)) ∧
      k.Frames LTDCDriver.timings :=
  ⟨_, rfl, .seg (Frame.modify fun _ => rfl) <| .seg (Frame.modify fun _ => rfl) <|
    .seg (Frame.layerMethod _ _ fun _ _ => rfl) <| .seg (Frame.layerMethod _ _ fun _ _ => rfl) <|
    .seg (Frame.modify fun _ => rfl) <| .seg (Frame.modify fun _ => rfl) <| .poll <|
    .seg (Frame.modify fun _ => rfl) <| .seg (Frame.modify fun _ => rfl) <| .poll <|
    .seg (Frame.modify fun _ => rfl) .ret⟩

/-! ## Where a thread stands inside a start -/

/-- The first stretch of a start sets the configuration and asks for an immediate reload,
so the thread stops at the poll before its timings. -/
theorem ltdcStart_exec_begin {H : LtdcHeader} {C : LTDCConfig} {k : Call} {t : Nat}
    {d d' : LTDCDriver} {c' : Call}
    (h : ((Call.seg (ltdcStartBegin C) (ltdc_force_reload_s (.seg (ltdcStartTimings H C) k))).exec t).run d =
      .ok (c', d')) :
    c' = .poll (LTDC_SRCR_IMR ||| LTDC_SRCR_VBR) (.seg (ltdcStartTimings H C) k) ∧ d'.config = some C := by
  obtain ⟨_, d₁, h₁, h⟩ := run_bind_ok h
  obtain ⟨_, d₂, h₂, h⟩ := run_bind_ok h
  simp only [modifyHw_run, Except.ok.injEq, Prod.mk.injEq, true_and] at h₂
  subst h₂
  rw [Call.exec_poll_pending _ _ _ (imr_pending _)] at h
  cases h
  simp only [ltdcStartBegin, modifyHw, StateT.run_bind, chDbgAssert_run, StateT.run_modify,
    StateT.run_get, pure_bind] at h₁
  split at h₁ <;> cases h₁
  exact ⟨rfl, rfl⟩

/-- At the poll before its timings a thread waits; or it runs the timings and the rest of
its stretch, and then the driver is programmed for the configuration the start set. -/
theorem ltdcStart_exec_timings {H : LtdcHeader} (hH : H.FitsRegisters) {C : LTDCConfig} {k : Call}
    (hk : k.Frames LTDCDriver.timings) {t : Nat} {d d' : LTDCDriver} {c' : Call}
    (hc : d.config = some C)
    (h : ((Call.poll (LTDC_SRCR_IMR ||| LTDC_SRCR_VBR) (.seg (ltdcStartTimings H C) k)).exec t).run d =
      .ok (c', d')) :
    c' = .poll (LTDC_SRCR_IMR ||| LTDC_SRCR_VBR) (.seg (ltdcStartTimings H C) k) ∧ d' = d ∨
      c'.Frames LTDCDriver.timings ∧ Programmed H d' := by
  by_cases hp : d.hw.SRCR &&& (LTDC_SRCR_IMR ||| LTDC_SRCR_VBR) = 0
  · rw [Call.exec_poll_clear _ _ _ hp] at h
    obtain ⟨_, d₁, h₁, h₂⟩ := run_bind_ok h
    obtain ⟨hv, hcfg, hw, hr⟩ := ltdcStartTimings_run_ok hH h₁
    obtain ⟨he, hk'⟩ := Call.exec_frames hk h₂
    refine .inr ⟨hk', Programmed.of_timings he fun C' hC' => ?_⟩
    rw [hcfg, hc] at hC'
    cases hC'
    exact ⟨hv, hw, hr⟩
  · rw [Call.exec_poll_pending _ _ _ hp] at h
    cases h
    exact .inl ⟨rfl, rfl⟩

/-- Where a thread inside `ltdcStart configp` stands for its timings: before its first
stretch; at the poll before its timings, with the configuration set; or past its timings,
with the driver programmed. -/
def StartPos (H : LtdcHeader) (C : LTDCConfig) (d : LTDCDriver) (c : Call) : Prop :=
  (∃ k, k.Frames LTDCDriver.timings ∧
    (c = .seg (ltdcStartBegin C) (ltdc_force_reload_s (.seg (ltdcStartTimings H C) k)) ∨
      c = .poll (LTDC_SRCR_IMR ||| LTDC_SRCR_VBR) (.seg (ltdcStartTimings H C) k) ∧
        d.config = some C)) ∨
    c.Frames LTDCDriver.timings ∧ Programmed H d

section StartPos

variable {H : LtdcHeader} {C : LTDCConfig} {d d' : LTDCDriver} {c c' : Call}

theorem StartPos.of_timings (h : d'.timings = d.timings) (hp : StartPos H C d c) : StartPos H C d' c := by
  rcases hp with ⟨k, hk, hc | ⟨hc, hcfg⟩⟩ | ⟨hc, hpr⟩
  · exact .inl ⟨k, hk, .inl hc⟩
  · exact .inl ⟨k, hk, .inr ⟨hc, (congrArg (fun p => p.1.config) h).trans hcfg⟩⟩
  · exact .inr ⟨hc, hpr.of_timings h⟩

/-- A start that has returned has programmed the driver. -/
theorem StartPos.ret (hp : StartPos H C d .ret) : Programmed H d := by
  rcases hp with ⟨k, -, hc | ⟨hc, -⟩⟩ | ⟨-, hpr⟩
  · cases hc
  · cases hc
  · exact hpr

/-- A thread inside a start, run to where it must wait, stands where `StartPos` says. -/
theorem StartPos.exec (hH : H.FitsRegisters) {t : Nat} (hp : StartPos H C d c)
    (h : (c.exec t).run d = .ok (c', d')) : StartPos H C d' c' := by
  rcases hp with ⟨k, hk, rfl | ⟨rfl, hcfg⟩⟩ | ⟨hc, hpr⟩
  · obtain ⟨rfl, hcfg⟩ := ltdcStart_exec_begin h
    exact .inl ⟨k, hk, .inr ⟨rfl, hcfg⟩⟩
  · rcases ltdcStart_exec_timings hH hk hcfg h with ⟨rfl, rfl⟩ | hpast
    · exact .inl ⟨k, hk, .inr ⟨rfl, hcfg⟩⟩
    · exact .inr hpast
  · obtain ⟨he, hc'⟩ := Call.exec_frames hc h
    exact .inr ⟨hc', hpr.of_timings he⟩

end StartPos

/-! ## Runs with serialised starts -/

/-- A step of the system in which a thread calls `ltdcStart` only while no thread is
inside it, as callers that hold the bus mutex around their starts make them. -/
def SerialStep (W : Bool) (H : LtdcHeader) (s s' : Sys) : Prop :=
  Step W H s s' ∧ ∀ t C c, s.calls t = none → s'.calls t = some (.start C, c) →
    ∀ u C' c', s.calls u ≠ some (.start C', c')

/-- A step of a thread inside its call, or of the controller, makes no call. -/
theorem SerialStep.of_solo {W : Bool} {H : LtdcHeader} {t : Nat} {s s' : Sys} (h : Step W H s s')
    (ho : Sys.Solo t s s') : SerialStep W H s s' := by
  refine ⟨h, fun t' C c hn hs' => ?_⟩
  by_cases e : t' = t
  · exact absurd (e ▸ hn) ho.1
  · rw [ho.2 t' e, hn] at hs'
    cases hs'

theorem Sys.resume_ok_calls_self_of_ne_ret (s : Sys) (t : Nat) (a : Api) {c : Call} (d : LTDCDriver)
    (hc : c ≠ .ret) : (s.resume t a (.ok (c, d))).calls t = some (a, c) := by
  cases c <;> simp_all [Sys.resume]

/-- A thread inside a start after thread `t` has run was inside that start before. -/
theorem Sys.resume_start {s : Sys} {t u : Nat} {a : Api} {c c' c'' : Call} {d' : LTDCDriver}
    {C : LTDCConfig} (ht : s.calls t = some (a, c))
    (h : (s.resume t a (.ok (c', d'))).calls u = some (.start C, c'')) :
    ∃ c₀, s.calls u = some (.start C, c₀) := by
  rcases Sys.resume_calls h with ⟨rfl, e⟩ | ⟨-, h⟩
  · cases e
    exact ⟨c, ht⟩
  · exact ⟨c'', h⟩

/-- At most one thread is inside `ltdcStart`. -/
def OneStart (s : Sys) : Prop :=
  ∀ t u C C' c c', s.calls t = some (.start C, c) → s.calls u = some (.start C', c') → t = u

/-- A thread that calls `ltdcStart` only while no thread is inside it keeps one start at
most. -/
theorem OneStart.call {s : Sys} (h : OneStart s) {t : Nat} {a : Api} {c : Call}
    (hser : (∃ C, a = .start C) → ∀ u C' c', s.calls u ≠ some (.start C', c')) :
    OneStart { s with calls := Function.update s.calls t (some (a, c)) } := by
  intro u₁ u₂ C₁ C₂ c₁ c₂ h₁ h₂
  rcases Sys.update_calls h₁ with ⟨rfl, e₁⟩ | ⟨-, hu₁⟩ <;>
    rcases Sys.update_calls h₂ with ⟨rfl, e₂⟩ | ⟨-, hu₂⟩
  · rfl
  · exact absurd hu₂ (hser ⟨C₁, (congrArg Prod.fst e₁).symm⟩ u₂ C₂ c₂)
  · exact absurd hu₁ (hser ⟨C₂, (congrArg Prod.fst e₂).symm⟩ u₁ C₁ c₁)
  · exact h u₁ u₂ C₁ C₂ c₁ c₂ hu₁ hu₂

theorem OneStart.resume {s : Sys} (h : OneStart s) {t : Nat} {a : Api} {c c' : Call}
    {d' : LTDCDriver} (ht : s.calls t = some (a, c)) : OneStart (s.resume t a (.ok (c', d'))) :=
  fun u₁ u₂ C₁ C₂ _ _ h₁ h₂ =>
    h u₁ u₂ C₁ C₂ _ _ (Sys.resume_start ht h₁).choose_spec (Sys.resume_start ht h₂).choose_spec

/-- What holds of the system in every run with serialised starts: a call other than a
start keeps the timings, a thread inside a start stands where `StartPos` says, at most
one thread is inside a start, and while none is, the driver is programmed. -/
structure TimingsInv (H : LtdcHeader) (s : Sys) : Prop where
  others : ∀ t a c, s.calls t = some (a, c) → (∀ C, a ≠ .start C) → c.Frames LTDCDriver.timings
  starts : ∀ t C c, s.calls t = some (.start C, c) → StartPos H C s.d c
  one_start : OneStart s
  idle : (∀ t C c, s.calls t ≠ some (.start C, c)) → Programmed H s.d

namespace TimingsInv

variable {H : LtdcHeader} {s : Sys}

theorem init (H : LtdcHeader) (reset : Regs) (d₀ : LTDCDriver) : TimingsInv H (Sys.init reset d₀) :=
  ⟨fun _ _ _ h => (by cases h), fun _ _ _ h => (by cases h), fun _ _ _ _ _ _ h => (by cases h),
    fun _ _ h => (by cases h)⟩

/-- The controller and the interrupt handlers keep the invariant: they keep the timings. -/
theorem with_d (hi : TimingsInv H s) {d : LTDCDriver} (h : d.timings = s.d.timings) :
    TimingsInv H { s with d } :=
  ⟨hi.others, fun t C c hc => (hi.starts t C c hc).of_timings h, hi.one_start,
    fun hn => (hi.idle hn).of_timings h⟩

/-- A thread that calls keeps the invariant, when it calls `ltdcStart` only while no
thread is inside it. -/
theorem call (hi : TimingsInv H s) (W : Bool) {t : Nat} (a : Api) (ht : s.calls t = none)
    (hser : (∃ C, a = .start C) → ∀ u C' c', s.calls u ≠ some (.start C', c')) :
    TimingsInv H { s with calls := Function.update s.calls t (some (a, a.call W H t)) } := by
  refine ⟨fun u a' c h ha => ?_, fun u C c h => ?_, hi.one_start.call hser,
    fun hn => hi.idle fun u C c h => ?_⟩
  · rcases Sys.update_calls h with ⟨-, e⟩ | ⟨-, h⟩
    · cases e
      exact Api.call_frames W H _ _ ha
    · exact hi.others u a' c h ha
  · rcases Sys.update_calls h with ⟨-, e⟩ | ⟨-, h⟩
    · cases e
      obtain ⟨k, hk, hkf⟩ := ltdcStartCall_eq H C
      exact .inl ⟨k, hkf, .inl hk⟩
    · exact hi.starts u C c h
  · by_cases e : u = t
    · rw [e, ht] at h
      cases h
    · exact hn u C c ((Function.update_noteq e _ _).trans h)

/-- A thread that runs inside its call keeps the invariant. -/
theorem resume (hH : H.FitsRegisters) (hi : TimingsInv H s) {t : Nat} {a : Api} {c c' : Call}
    {d' : LTDCDriver} (ht : s.calls t = some (a, c)) (hr : (c.exec t).run s.d = .ok (c', d')) :
    TimingsInv H (s.resume t a (.ok (c', d'))) := by
  have hframes : (∀ C, a ≠ .start C) → d'.timings = s.d.timings ∧ c'.Frames LTDCDriver.timings :=
    fun ha => Call.exec_frames (hi.others t a c ht ha) hr
  have hother : ∀ {u C c₀}, s.calls u = some (.start C, c₀) → u ≠ t → ∀ C', a ≠ .start C' :=
    fun {u C _} hu e C' ha => e (hi.one_start u t C C' _ c hu (ha ▸ ht))
  refine ⟨fun u a' c'' h ha => ?_, fun u C c'' h => ?_, hi.one_start.resume ht, fun hn => ?_⟩
  · rcases Sys.resume_calls h with ⟨-, e⟩ | ⟨-, h⟩
    · cases e
      exact (hframes ha).2
    · exact hi.others u a' c'' h ha
  · rw [Sys.resume_ok_d]
    rcases Sys.resume_calls h with ⟨rfl, e⟩ | ⟨e, hu⟩
    · cases e
      exact (hi.starts _ C c ht).exec hH hr
    · exact (hi.starts u C c'' hu).of_timings (hframes (hother hu e)).1
  · rw [Sys.resume_ok_d]
    by_cases ha : ∃ C, a = .start C
    · obtain ⟨C, rfl⟩ := ha
      by_cases hc : c' = .ret
      · subst hc
        exact ((hi.starts t C c ht).exec hH hr).ret
      · exact absurd (Sys.resume_ok_calls_self_of_ne_ret s t _ d' hc) (hn t C c')
    · have ha' : ∀ C, a ≠ .start C := fun C h => ha ⟨C, h⟩
      refine (hi.idle fun u C c₀ hu => ?_).of_timings (hframes ha').1
      by_cases e : u = t
      · subst e
        rw [ht] at hu
        cases hu
        exact ha' C rfl
      · exact hn u C c₀ ((Sys.resume_calls_of_ne _ _ _ e).trans hu)

end TimingsInv

/-- A step with serialised starts keeps the invariant. -/
theorem SerialStep.timingsInv {W : Bool} {H : LtdcHeader} (hH : H.FitsRegisters) {s s' : Sys}
    (hs : SerialStep W H s s') (hi : TimingsInv H s) : TimingsInv H s' := by
  obtain ⟨hs, hser⟩ := hs
  cases hs with
  | call t a _ ht =>
    exact hi.call W a ht fun ⟨C, ha⟩ => hser t C (a.call W H t) ht (by subst ha; simp)
  | run t a c _ ht =>
    cases hr : (c.exec t).run s.d with
    | error e => exact ⟨hi.1, hi.2, hi.3, hi.4⟩
    | ok p => exact hi.resume hH ht hr
  | commit bit => exact hi.with_d (LTDCDriver.timings_of_setup (LTDCDriver.setup_commit _ _))
  | raise => exact hi.with_d rfl
  | ev _ _ _ =>
    cases hr : (LTDC_EV_IRQHandler W).run s.d with
    | error e => exact ⟨hi.1, hi.2, hi.3, hi.4⟩
    | ok p => exact hi.with_d (LTDCDriver.timings_of_setup (LTDC_EV_IRQHandler_setup W _ _ _ hr))
  | er _ _ _ =>
    cases hr : LTDC_ER_IRQHandler.run s.d with
    | error e => exact ⟨hi.1, hi.2, hi.3, hi.4⟩
    | ok p => exact hi.with_d (LTDCDriver.timings_of_setup (LTDC_ER_IRQHandler_setup _ _ _ hr))

theorem TimingsInv.run {W : Bool} {H : LtdcHeader} (hH : H.FitsRegisters) {s s' : Sys}
    (hr : Relation.ReflTransGen (SerialStep W H) s s') (hi : TimingsInv H s) : TimingsInv H s' := by
  induction hr with
  | refl => exact hi
  | tail _ hst ih => exact hst.timingsInv hH ih

/-- For a header whose limits the controller's fields hold, in every run from `ltdcInit`,
for either setting of `LTDC_USE_WAIT`, in which no thread calls `ltdcStart` while another
is inside it, with any number of threads making any other calls and the controller's
commits and flags and the interrupt handlers interleaved: whenever no thread is inside
`ltdcStart`, the driver's configuration, if it has one, is within the header's ranges,
its cached active window is the spec's for it, and `SSCR`, `BPCR`, `AWCR` and `TWCR` hold
the controller's encoding of its timings. -/
theorem ltdc_timings_follow_config (W : Bool) (H : LtdcHeader) (hH : H.FitsRegisters) (reset : Regs)
    (d₀ : LTDCDriver) {s : Sys} (hr : Relation.ReflTransGen (SerialStep W H) (Sys.init reset d₀) s)
    (hs : ∀ t C c, s.calls t ≠ some (.start C, c)) {C : LTDCConfig} (hc : s.d.config = some C) :
    C.TimingsValid H ∧ s.d.active_window = C.activeWindow ∧
      (s.d.hw.SSCR, s.d.hw.BPCR, s.d.hw.AWCR, s.d.hw.TWCR) = C.timingRegs :=
  (TimingsInv.run hH hr (TimingsInv.init H reset d₀)).idle hs C hc

/-- Thread 0 starts the scenario panel from `ltdcInit`, alone, in a run with serialised
starts. -/
theorem scenario_start_serial : ∃ d,
    Relation.ReflTransGen (SerialStep false fieldHeader) (Sys.init zeroRegs LTDCD1)
      { Sys.init zeroRegs LTDCD1 with d, lock := none } ∧ d.config = some scenarioConfig := by
  obtain ⟨d, hd⟩ : ∃ d, (ltdcStart fieldHeader scenarioConfig).run (ltdcInit zeroRegs LTDCD1) =
      .ok ((), d) := ⟨_, rfl⟩
  exact ⟨d, reach_call_solo false (t := 0) (.start scenarioConfig) (ltdcStartCall_plain _ _)
    (fun _ _ h ho _ => SerialStep.of_solo h ho) ⟨.call _ 0 _ rfl rfl, fun _ _ _ _ _ _ _ _ h => (by cases h)⟩
    rfl rfl hd, (ltdcStart_run_ok hd).2.1⟩

/-- The scenario panel, started by thread 0 from `ltdcInit`: its configuration is
programmed. -/
theorem scenario_timings_follow_config :
    ∃ s, fieldHeader.FitsRegisters ∧
      Relation.ReflTransGen (SerialStep false fieldHeader) (Sys.init zeroRegs LTDCD1) s ∧
      (∀ t C c, s.calls t ≠ some (.start C, c)) ∧ s.d.config = some scenarioConfig ∧
      (scenarioConfig.TimingsValid fieldHeader ∧ s.d.active_window = scenarioConfig.activeWindow ∧
        (s.d.hw.SSCR, s.d.hw.BPCR, s.d.hw.AWCR, s.d.hw.TWCR) = scenarioConfig.timingRegs) := by
  have hH := fieldHeader_fitsRegisters
  obtain ⟨d, hr, hc⟩ := scenario_start_serial
  have hs : ∀ t C c, ({ Sys.init zeroRegs LTDCD1 with d, lock := none } : Sys).calls t ≠
      some (.start C, c) := fun _ _ _ h => (by cases h)
  exact ⟨_, hH, hr, hs, hc, ltdc_timings_follow_config false fieldHeader hH zeroRegs LTDCD1 hr hs hc⟩

end Ltdc
