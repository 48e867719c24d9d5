import DisplayHal.Ltdc.Layer

/-!
# The driver: global methods, start, stop, reloads and interrupts

The methods of `LTDCD1` that act on the controller as a whole, and the calls that wait.
A call that waits (`ltdcStart`, `ltdcStop`, `ltdcReloadS`) is a `Call`: atomic
segments, run with the scheduler locked, between the points where the calling thread
polls `SRCR` with `chSchDoYieldS` or sleeps with `chSchGoSleepS`. The scheduler, other
threads and the interrupt handlers can only come in at those points; the module
`DisplayHal.Ltdc.Reload` interleaves them. Here `Call.runAlone` is the run of a call by
a thread that nothing interrupts: each poll ends when the controller has committed
the reloads it waits for. `ltdcStart` and `ltdcStop` are that run.

A reload request sets `IMR` (at once) or `VBR` (at the next vertical blank) in `SRCR`;
the controller clears the bit when it has committed the shadow registers and raises
`RRIF` (`Regs.commit`). The model keeps one copy of each register: what it records is
the value last written, which is what the controller shows after the next commit.

`LTDC_USE_WAIT` is a section variable, so that every definition that depends on it
takes the setting as its first argument. The interrupt callbacks belong to the
application, which may do anything with them; the model runs each as doing nothing to
the driver.
-/

namespace Ltdc

/-! ## Access to the driver -/

/-- A write to the global registers. -/
def modifyHw (f : Regs → Regs) : DriverM Unit := modify fun d => { d with hw := f d.hw }

/-- `ltdcp->state = s`. -/
def setState (s : LtdcState) : DriverM Unit := modify fun d => { d with state := s }

/-- `ltdcp->config`, read through; halts on `NULL`. -/
def ltdcConfig : DriverM LTDCConfig := do
  match (← get).config with
  | some c => pure c
  | none => throw .nullConfig

/-- The two checks of one range, `lo <= x` and `x <= hi`, with their messages. -/
def assertRange (x lo hi : Nat) (msgLo msgHi : String) : DriverM Unit := do
  chDbgAssert (x ≥ lo) (.panic msgLo)
  chDbgAssert (x ≤ hi) (.panic msgHi)

/-! ## Global methods -/

def ltdcGetStateI : DriverM LtdcState := return (← get).state

def ltdcGetEnableFlagsI : DriverM Nat := return (← get).hw.GCR &&& LTDC_EF_MASK

/-- `ltdcSetEnableFlagsI`: `GCR` is written whole. -/
def ltdcSetEnableFlagsI (flags : Nat) : DriverM Unit :=
  modifyHw fun r => { r with GCR := flags &&& LTDC_EF_MASK }

def ltdcIsReloadingI : DriverM Bool :=
  return (← get).hw.SRCR &&& (LTDC_SRCR_IMR ||| LTDC_SRCR_VBR) ≠ 0

/-- `ltdcStartReloadI`: from `READY`, the driver turns `ACTIVE` and asks the controller for a
reload, at once (`IMR`) or at the next vertical blank (`VBR`). -/
def ltdcStartReloadI (immediately : Bool) : DriverM Unit := do
  chDbgAssert ((← get).state = .ready) (.panic "ltdcStartReloadI(), #1")
  setState .active
  if immediately then
    modifyHw fun r => { r with SRCR := r.SRCR ||| LTDC_SRCR_IMR }
  else
    modifyHw fun r => { r with SRCR := r.SRCR ||| LTDC_SRCR_VBR }

def ltdcIsDitheringEnabledI : DriverM Bool := return (← get).hw.GCR &&& LTDC_GCR_DTEN ≠ 0

def ltdcEnableDitheringI : DriverM Unit :=
  modifyHw fun r => { r with GCR := r.GCR ||| LTDC_GCR_DTEN }

def ltdcDisableDitheringI : DriverM Unit :=
  modifyHw fun r => { r with GCR := r.GCR &&& compl32 LTDC_GCR_DTEN }

def ltdcGetClearColorI : DriverM Nat := return (← get).hw.BCCR &&& 0x00FFFFFF

def ltdcSetClearColorI (c : Nat) : DriverM Unit :=
  modifyHw fun r => { r with BCCR := rmw r.BCCR 0x00FFFFFF c }

def ltdcGetLineInterruptPosI : DriverM Nat :=
  return ((← get).hw.LIPCR &&& LTDC_LIPCR_LIPOS) % 2 ^ 16

def ltdcSetLineInterruptPosI (line : Nat) : DriverM Unit :=
  modifyHw fun r => { r with LIPCR := rmw r.LIPCR LTDC_LIPCR_LIPOS line }

def ltdcIsLineInterruptEnabledI : DriverM Bool := return (← get).hw.IER &&& LTDC_IER_LIE ≠ 0

/-- `ltdcEnableLineInterruptI`: sets `LIE`, whatever `line_isr` is. -/
def ltdcEnableLineInterruptI : DriverM Unit :=
  modifyHw fun r => { r with IER := r.IER ||| LTDC_IER_LIE }

def ltdcDisableLineInterruptI : DriverM Unit :=
  modifyHw fun r => { r with IER := r.IER &&& compl32 LTDC_IER_LIE }

/-- `ltdcGetCurrentPosI`: the `x` and `y` it writes back. -/
def ltdcGetCurrentPosI : DriverM (Nat × Nat) := do
  let r := (← get).hw.CPSR
  return (((r &&& LTDC_CPSR_CXPOS) >>> 16) % 2 ^ 16, ((r &&& LTDC_CPSR_CYPOS) >>> 0) % 2 ^ 16)

/-! ## Initialisation -/

/-- `ltdcObjectInit`: the object `UNINIT`, with no configuration, the invalid window and no
waiter; the controller's registers are left alone. -/
def ltdcObjectInit (d : LTDCDriver) : LTDCDriver :=
  { d with state := .uninit, config := none, active_window := ltdc_invalid_window, thread := none }

/-- `ltdcInit`: `rccResetLTDC` puts the registers to the values `reset` the silicon
gives them, then the object is initialised and stopped. -/
def ltdcInit (reset : Regs) (d : LTDCDriver) : LTDCDriver :=
  { ltdcObjectInit { d with hw := reset } with state := .stop }

/-! ## Calls that wait -/

/-- A call as the scheduler sees it: what is left of it after the last point where the
calling thread could be interrupted. -/
inductive Call
  /-- The call returns, unlocking the scheduler. -/
  | ret
  /-- An atomic segment, then the rest; consecutive segments run as one. -/
  | seg (m : DriverM Unit) (k : Call)
  /-- `while (LTDC->SRCR & mask) chSchDoYieldS();`, then the rest. -/
  | poll (mask : Nat) (k : Call)
  /-- `chSchGoSleepS`: asleep until the reload interrupt takes the thread out of the
  waiter slot, then the rest. -/
  | sleep (k : Call)

/-- The controller's commit of the requests `bits` of `SRCR`: the pending ones are
cleared and, if there was one, `RRIF` is raised. -/
def Regs.commit (bits : Nat) (r : Regs) : Regs :=
  if r.SRCR &&& bits ≠ 0 then
    { r with SRCR := r.SRCR &&& compl32 bits, ISR := r.ISR ||| LTDC_ISR_RRIF }
  else r

section Wait

variable (LTDC_USE_WAIT : Bool)

/-- `LTDC_EV_IRQHandler`: on a raised and enabled `LIF` it asserts the line callback and
clears the flag; then, on `RRIF`, it asserts the driver `ACTIVE`, empties the waiter slot
when waits are enabled, turns the driver `READY` and clears the flag. What a callback does
is the application's. -/
def LTDC_EV_IRQHandler : DriverM Unit := do
  let d ← get
  if d.hw.ISR &&& LTDC_ISR_LIF ≠ 0 ∧ d.hw.IER &&& LTDC_IER_LIE ≠ 0 then
    let c ← ltdcConfig
    chDbgAssert (c.line_isr ≠ none) (.panic "LTDC_EV_IRQHandler(), #1")
    modifyHw fun r => { r with ISR := r.ISR &&& compl32 LTDC_ISR_LIF }
  let d ← get
  if d.hw.ISR &&& LTDC_ISR_RRIF ≠ 0 ∧ d.hw.IER &&& LTDC_IER_RRIE ≠ 0 then
    let _ ← ltdcConfig
    chDbgAssert (d.state = .active) (.panic "LTDC_EV_IRQHandler(), #2")
    if LTDC_USE_WAIT then
      modify fun d => { d with thread := none }
    setState .ready
    modifyHw fun r => { r with ISR := r.ISR &&& compl32 LTDC_ISR_RRIF }

/-- `LTDC_ER_IRQHandler`: on a raised and enabled `FUIF`, then `TERRIF`, it asserts the
flag's callback and clears the flag. -/
def LTDC_ER_IRQHandler : DriverM Unit := do
  let d ← get
  if d.hw.ISR &&& LTDC_ISR_FUIF ≠ 0 ∧ d.hw.IER &&& LTDC_IER_FUIE ≠ 0 then
    let c ← ltdcConfig
    chDbgAssert (c.fuerr_isr ≠ none) (.panic "LTDC_ER_IRQHandler(), #1")
    modifyHw fun r => { r with ISR := r.ISR &&& compl32 LTDC_ISR_FUIF }
  let d ← get
  if d.hw.ISR &&& LTDC_ISR_TERRIF ≠ 0 ∧ d.hw.IER &&& LTDC_IER_TERRIE ≠ 0 then
    let c ← ltdcConfig
    chDbgAssert (c.terr_isr ≠ none) (.panic "LTDC_ER_IRQHandler(), #2")
    modifyHw fun r => { r with ISR := r.ISR &&& compl32 LTDC_ISR_TERRIF }

/-- The run of a call that nothing interrupts: a poll ends once the controller has
committed what it waits for, and a sleep once the reload interrupt has run. -/
def Call.runAlone : Call → DriverM Unit
  | .ret => pure ()
  | .seg m k => do m; k.runAlone
  | .poll mask k => do modifyHw (Regs.commit mask); k.runAlone
  | .sleep k => do
      modifyHw (Regs.commit (LTDC_SRCR_IMR ||| LTDC_SRCR_VBR))
      LTDC_EV_IRQHandler LTDC_USE_WAIT
      k.runAlone

/-- The waiter check of `ltdcReloadS`. -/
def assertNoWaiter : DriverM Unit := do
  chDbgAssert ((← get).thread = none) (.panic "ltdcReloadS(), #1")

/-- `ltdcReloadS` called by thread `self`, after the caller's own work `pre` and before
its work `post`, both in the same locked stretch. -/
def ltdcReloadSCall (self : Nat) (immediately : Bool) (pre post : DriverM Unit) : Call :=
  if LTDC_USE_WAIT then
    if immediately then
      .seg pre <| .seg (ltdcStartReloadI immediately) <| .seg assertNoWaiter <|
      .poll LTDC_SRCR_IMR <| .seg (setState .ready) <| .seg post .ret
    else
      .seg pre <| .seg (ltdcStartReloadI immediately) <| .seg assertNoWaiter <|
      .seg (modify fun d => { d with thread := some self }) <|
      .sleep <| .seg post .ret
  else
    .seg pre <| .seg (ltdcStartReloadI immediately) <|
    .poll LTDC_SRCR_IMR <| .seg (setState .ready) <| .seg post .ret

/-- `ltdcStop` called by thread `self`. -/
def ltdcStopCall (self : Nat) : Call :=
  let pre : DriverM Unit := do
    chDbgAssert ((← get).state = .ready) (.panic "ltdcStop(), #1")
    modifyHw fun r => { r with GCR := r.GCR &&& compl32 LTDC_GCR_LTDCEN, IER := 0 }
  if LTDC_USE_WAIT then
    ltdcReloadSCall LTDC_USE_WAIT self true pre (setState .stop)
  else
    .seg pre <| .seg (ltdcStartReloadI true) <|
    .poll (LTDC_SRCR_IMR ||| LTDC_SRCR_VBR) <| .seg (setState .stop) .ret

/-- `ltdcStop` run alone. -/
def ltdcStop (self : Nat) : DriverM Unit := (ltdcStopCall LTDC_USE_WAIT self).runAlone LTDC_USE_WAIT

end Wait

/-! ## Start -/

/-- `ltdc_force_reload_s`, then the rest `k` of the caller: an immediate reload
request, and a poll until the controller has committed every pending request. -/
def ltdc_force_reload_s (k : Call) : Call :=
  .seg (modifyHw fun r => { r with SRCR := r.SRCR ||| LTDC_SRCR_IMR }) <|
  .poll (LTDC_SRCR_IMR ||| LTDC_SRCR_VBR) k

/-- `ltdcStart` up to its first reload: the controller and its interrupts off. -/
def ltdcStartBegin (configp : LTDCConfig) : DriverM Unit := do
  chDbgAssert ((← get).state = .stop) (.panic "ltdcStart(), #1")
  modify fun d => { d with config := some configp }
  modifyHw fun r => { r with GCR := 0, IER := 0 }

/-- The timings of `ltdcStart`: synchronisation, back porch, active area and total,
each checked, written and accumulated, and the active window cached. Sums are
`uint32_t`, the active window's corners `uint16_t`. -/
def ltdcStartTimings (H : LtdcHeader) (configp : LTDCConfig) : DriverM Unit := do
  assertRange configp.hsync_width H.LTDC_MIN_HSYNC_WIDTH H.LTDC_MAX_HSYNC_WIDTH
    "ltdcStart(), #11" "ltdcStart(), #12"
  assertRange configp.vsync_height H.LTDC_MIN_VSYNC_HEIGHT H.LTDC_MAX_VSYNC_HEIGHT
    "ltdcStart(), #13" "ltdcStart(), #14"
  let hacc := subU32 configp.hsync_width 1
  let vacc := subU32 configp.vsync_height 1
  modifyHw fun r => { r with SSCR := ((hacc <<< 16) &&& LTDC_SSCR_HSW) |||
                                     ((vacc <<< 0) &&& LTDC_SSCR_VSH) }
  assertRange configp.hbp_width H.LTDC_MIN_HBP_WIDTH H.LTDC_MAX_HBP_WIDTH
    "ltdcStart(), #21" "ltdcStart(), #22"
  assertRange configp.vbp_height H.LTDC_MIN_VBP_HEIGHT H.LTDC_MAX_VBP_HEIGHT
    "ltdcStart(), #23" "ltdcStart(), #24"
  let hacc := (hacc + configp.hbp_width) % 2 ^ 32
  let vacc := (vacc + configp.vbp_height) % 2 ^ 32
  assertRange ((hacc + 1) % 2 ^ 32) H.LTDC_MIN_ACC_HBP_WIDTH H.LTDC_MAX_ACC_HBP_WIDTH
    "ltdcStart(), #31" "ltdcStart(), #32"
  assertRange ((vacc + 1) % 2 ^ 32) H.LTDC_MIN_ACC_VBP_HEIGHT H.LTDC_MAX_ACC_VBP_HEIGHT
    "ltdcStart(), #33" "ltdcStart(), #34"
  modifyHw fun r => { r with BPCR := ((hacc <<< 16) &&& LTDC_BPCR_AHBP) |||
                                     ((vacc <<< 0) &&& LTDC_BPCR_AVBP) }
  modify fun d => { d with active_window := { d.active_window with
    hstart := (hacc + 1) % 2 ^ 16, vstart := (vacc + 1) % 2 ^ 16 } }
  assertRange configp.screen_width H.LTDC_MIN_SCREEN_WIDTH H.LTDC_MAX_SCREEN_WIDTH
    "ltdcStart(), #41" "ltdcStart(), #42"
  assertRange configp.screen_height H.LTDC_MIN_SCREEN_HEIGHT H.LTDC_MAX_SCREEN_HEIGHT
    "ltdcStart(), #43" "ltdcStart(), #44"
  let hacc := (hacc + configp.screen_width) % 2 ^ 32
  let vacc := (vacc + configp.screen_height) % 2 ^ 32
  assertRange ((hacc + 1) % 2 ^ 32) H.LTDC_MIN_ACC_ACTIVE_WIDTH H.LTDC_MAX_ACC_ACTIVE_WIDTH
    "ltdcStart(), #51" "ltdcStart(), #52"
  assertRange ((vacc + 1) % 2 ^ 32) H.LTDC_MIN_ACC_ACTIVE_HEIGHT H.LTDC_MAX_ACC_ACTIVE_HEIGHT
    "ltdcStart(), #53" "ltdcStart(), #54"
  modifyHw fun r => { r with AWCR := ((hacc <<< 16) &&& LTDC_AWCR_AAW) |||
                                     ((vacc <<< 0) &&& LTDC_AWCR_AAH) }
  modify fun d => { d with active_window := { d.active_window with
    hstop := hacc % 2 ^ 16, vstop := vacc % 2 ^ 16 } }
  assertRange configp.hfp_width H.LTDC_MIN_HFP_WIDTH H.LTDC_MAX_HFP_WIDTH
    "ltdcStart(), #61" "ltdcStart(), #62"
  assertRange configp.vfp_height H.LTDC_MIN_VFP_HEIGHT H.LTDC_MAX_VFP_HEIGHT
    "ltdcStart(), #63" "ltdcStart(), #64"
  let hacc := (hacc + configp.hfp_width) % 2 ^ 32
  let vacc := (vacc + configp.vfp_height) % 2 ^ 32
  assertRange ((hacc + 1) % 2 ^ 32) H.LTDC_MIN_ACC_TOTAL_WIDTH H.LTDC_MAX_ACC_TOTAL_WIDTH
    "ltdcStart(), #71" "ltdcStart(), #72"
  assertRange ((vacc + 1) % 2 ^ 32) H.LTDC_MIN_ACC_TOTAL_HEIGHT H.LTDC_MAX_ACC_TOTAL_HEIGHT
    "ltdcStart(), #73" "ltdcStart(), #74"
  modifyHw fun r => { r with TWCR := ((hacc <<< 16) &&& LTDC_TWCR_TOTALW) |||
                                     ((vacc <<< 0) &&& LTDC_TWCR_TOTALH) }

/-- The interrupt sources `ltdcStart` enables: `RRIE`, and each other source whose
callback is not `NULL`. -/
def ltdcStartFlags (configp : LTDCConfig) : Nat :=
  let flags := LTDC_IER_RRIE
  let flags := if configp.line_isr ≠ none then flags ||| LTDC_IER_LIE else flags
  let flags := if configp.fuerr_isr ≠ none then flags ||| LTDC_IER_FUIE else flags
  if configp.terr_isr ≠ none then flags ||| LTDC_IER_TERRIE else flags

/-- `ltdcStart` between its second and third reloads: the controller on. -/
def ltdcStartEnable : DriverM Unit := modifyHw fun r => { r with GCR := r.GCR ||| LTDC_GCR_LTDCEN }

/-- `ltdcStart` as the scheduler sees it: three `ltdc_force_reload_s`. -/
def ltdcStartCall (H : LtdcHeader) (configp : LTDCConfig) : Call :=
  .seg (ltdcStartBegin configp) <| ltdc_force_reload_s <|
  .seg (ltdcStartTimings H configp) <|
  .seg (ltdcSetEnableFlagsI (configp.flags &&& compl32 LTDC_EF_ENABLE)) <|
  .seg (ltdcSetClearColorI configp.clear_color) <|
  .seg (ltdcBgSetConfigI H configp.bg_laycfg) <|
  .seg (ltdcFgSetConfigI H configp.fg_laycfg) <|
  .seg (modifyHw fun r => { r with IER := ltdcStartFlags configp }) <| ltdc_force_reload_s <|
  .seg ltdcStartEnable <| ltdc_force_reload_s <|
  .seg (setState .ready) .ret

/-- `ltdcStart` run alone. It never sleeps, so the setting of `LTDC_USE_WAIT` does not
matter. -/
def ltdcStart (H : LtdcHeader) (configp : LTDCConfig) : DriverM Unit :=
  (ltdcStartCall H configp).runAlone false

/-! ## The panel of the spec's scenarios

The spec's seed scenarios drive a 480×272 panel with `HSW = 41`, `VSW = 10` and porches
of 2, both layers absent. The header's limits are
those of the controller's fields (12 bits horizontal, 11 vertical; 13-bit line length
with its 3 bytes of bus setup). -/

/-- Limits of the controller's register fields. -/
def fieldHeader : LtdcHeader :=
  ⟨1, 2 ^ 12, 1, 2 ^ 11, 0, 2 ^ 12, 0, 2 ^ 11, 1, 2 ^ 12, 1, 2 ^ 11, 1, 2 ^ 12, 1, 2 ^ 11,
    1, 2 ^ 12, 1, 2 ^ 11, 0, 2 ^ 12, 0, 2 ^ 11, 1, 2 ^ 12, 1, 2 ^ 11,
    0, 2 ^ 13 - 1 - 3, 0, 2 ^ 11 - 1, 0x0405⟩

/-- The spec's scenario panel, with no layer descriptors and no callbacks. -/
def scenarioConfig : LTDCConfig :=
  ⟨480, 272, 41, 10, 2, 2, 2, 2, 0, 0x000000, none, none, none, none, none, none⟩

/-- A layer block with every register zero and a black CLUT. -/
def zeroLayerRegs : LayerRegs := ⟨0, 0, 0, 0, 0, 0, 0, 0, 0, 0, 0, fun _ => 0⟩

/-- A register file with every register zero. -/
def zeroRegs : Regs := ⟨0, 0, 0, 0, 0, 0, 0, 0, 0, 0, 0, zeroLayerRegs, zeroLayerRegs⟩

/-- `LTDCD1` as the C runtime leaves it before `ltdcInit`: zeroed. -/
def LTDCD1 : LTDCDriver := ⟨.uninit, none, ⟨0, 0, 0, 0⟩, none, zeroRegs⟩

end Ltdc
