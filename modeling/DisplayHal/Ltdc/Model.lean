import DisplayHal.Ltdc.Registers

/-!
# The LTDC driver object

`LTDCD1` with the peripheral it drives, the descriptors its API takes, and the two
monads the driver is written in.

A call either returns or halts: `chDbgCheck` and `chDbgAssert` call `chDbgPanic`
with a message when their condition fails, and the model returns that message as a
`Fault`. The messages of the two layer blocks differ only in the `ltdcBg`/`ltdcFg`
prefix of the function they name, so a fault there records the layer and the rest
of the message (`Fault.layerPanic`). Reading through the configuration pointer
before `ltdcStart` has set it is undefined in C; the model halts with `nullConfig`.

A layer method runs in `LayerM`: it reads the running configuration and the active
window (`LayerCtx`), and it reads and writes one layer block. `onLayer` runs it on
the block of `LTDC_Layer1` or `LTDC_Layer2` inside a driver operation (`DriverM`),
so that each `ltdcBgX`/`ltdcFgX` pair is one definition applied to either block, as
the two hand-copied blocks of the source are.

The hardware limits `LTDC_MIN_*`/`LTDC_MAX_*` are defined in `stm32_ltdc.h`, which is
not among the sources, so they are a parameter (`LtdcHeader`).
-/

namespace Ltdc

/-! ## Descriptors -/

/-- `ltdc_window_t`: inclusive corners, `uint16_t` each. -/
structure LtdcWindow where
  hstart : Nat
  hstop : Nat
  vstart : Nat
  vstop : Nat
  deriving DecidableEq, Repr

/-- `ltdc_frame_t`: buffer address, width and height in pixels, pitch in bytes, and
pixel format. -/
structure LtdcFrame where
  bufferp : Nat
  width : Nat
  height : Nat
  pitch : Nat
  fmt : Nat
  deriving DecidableEq, Repr

/-- `ltdc_laycfg_t`. The frame, window and palette are pointers: `none` is `NULL`. -/
structure LtdcLaycfg where
  frame : Option LtdcFrame
  window : Option LtdcWindow
  def_color : Nat
  const_alpha : Nat
  key_color : Nat
  pal_colors : Option (List Nat)
  pal_length : Nat
  blending : Nat
  flags : Nat
  deriving DecidableEq, Repr

/-- `LTDCConfig`. An interrupt callback is its address, `none` for `NULL`; what it
does is the application's. -/
structure LTDCConfig where
  screen_width : Nat
  screen_height : Nat
  hsync_width : Nat
  vsync_height : Nat
  hbp_width : Nat
  vbp_height : Nat
  hfp_width : Nat
  vfp_height : Nat
  flags : Nat
  clear_color : Nat
  bg_laycfg : Option LtdcLaycfg
  fg_laycfg : Option LtdcLaycfg
  line_isr : Option Nat
  rr_isr : Option Nat
  fuerr_isr : Option Nat
  terr_isr : Option Nat

/-- The constants of `stm32_ltdc.h` that the driver checks against. The header is not
among the sources, so these are a parameter of the model. -/
structure LtdcHeader where
  LTDC_MIN_HSYNC_WIDTH : Nat
  LTDC_MAX_HSYNC_WIDTH : Nat
  LTDC_MIN_VSYNC_HEIGHT : Nat
  LTDC_MAX_VSYNC_HEIGHT : Nat
  LTDC_MIN_HBP_WIDTH : Nat
  LTDC_MAX_HBP_WIDTH : Nat
  LTDC_MIN_VBP_HEIGHT : Nat
  LTDC_MAX_VBP_HEIGHT : Nat
  LTDC_MIN_ACC_HBP_WIDTH : Nat
  LTDC_MAX_ACC_HBP_WIDTH : Nat
  LTDC_MIN_ACC_VBP_HEIGHT : Nat
  LTDC_MAX_ACC_VBP_HEIGHT : Nat
  LTDC_MIN_SCREEN_WIDTH : Nat
  LTDC_MAX_SCREEN_WIDTH : Nat
  LTDC_MIN_SCREEN_HEIGHT : Nat
  LTDC_MAX_SCREEN_HEIGHT : Nat
  LTDC_MIN_ACC_ACTIVE_WIDTH : Nat
  LTDC_MAX_ACC_ACTIVE_WIDTH : Nat
  LTDC_MIN_ACC_ACTIVE_HEIGHT : Nat
  LTDC_MAX_ACC_ACTIVE_HEIGHT : Nat
  LTDC_MIN_HFP_WIDTH : Nat
  LTDC_MAX_HFP_WIDTH : Nat
  LTDC_MIN_VFP_HEIGHT : Nat
  LTDC_MAX_VFP_HEIGHT : Nat
  LTDC_MIN_ACC_TOTAL_WIDTH : Nat
  LTDC_MAX_ACC_TOTAL_WIDTH : Nat
  LTDC_MIN_ACC_TOTAL_HEIGHT : Nat
  LTDC_MAX_ACC_TOTAL_HEIGHT : Nat
  LTDC_MIN_FRAME_WIDTH_BYTES : Nat
  LTDC_MAX_FRAME_WIDTH_BYTES : Nat
  LTDC_MIN_FRAME_HEIGHT_LINES : Nat
  LTDC_MAX_FRAME_HEIGHT_LINES : Nat
  LTDC_BLEND_FIX1_FIX2 : Nat

/-- Modelled from the spec: `LTDC_MIN_PIXFMT_ID`, format ids are 0..7. -/
def LTDC_MIN_PIXFMT_ID : Nat := 0
/-- Modelled from the spec: `LTDC_MAX_PIXFMT_ID`, format ids are 0..7. -/
def LTDC_MAX_PIXFMT_ID : Nat := 7
/-- Modelled from the spec: `LTDC_MAX_PALETTE_LENGTH`, up to 256 entries. -/
def LTDC_MAX_PALETTE_LENGTH : Nat := 256
/-- Modelled from the spec: `LTDC_COLOR_BLACK`, the RGB-888 black of the default layer. -/
def LTDC_COLOR_BLACK : Nat := 0

/-! ## Faults -/

/-- How a call ends when it does not return. -/
inductive Fault
  /-- `chDbgPanic` with this message. -/
  | panic (msg : String)
  /-- `chDbgPanic` in a layer method: the message is `"ltdcBg" ++ site` or
  `"ltdcFg" ++ site`. -/
  | layerPanic (L : LayerId) (site : String)
  /-- A read through the `NULL` configuration pointer. -/
  | nullConfig
  deriving DecidableEq, Repr

/-- The same fault raised by the other layer's copy of the method. -/
def Fault.swap : Fault → Fault
  | .layerPanic L s => .layerPanic L.swap s
  | f => f

/-- How a layer method halts: a check of its own, a check of a function outside the
layer blocks that it calls, or a read through the `NULL` configuration. -/
inductive LayerFault
  | own (site : String)
  | panic (msg : String)
  | nullConfig
  deriving DecidableEq, Repr

/-- The fault a layer method raises when it runs on layer `L`. -/
def LayerFault.toFault (L : LayerId) : LayerFault → Fault
  | .own s => .layerPanic L s
  | .panic m => .panic m
  | .nullConfig => .nullConfig

@[simp] theorem LayerFault.toFault_swap (L : LayerId) (e : LayerFault) :
    e.toFault L.swap = (e.toFault L).swap := by
  cases e <;> rfl

/-! ## The driver object -/

/-- `ltdc_state_t`: the driver's states, from `UNINIT` before `ltdcInit` to `ACTIVE` while
a reload it asked for is outstanding. -/
inductive LtdcState
  | uninit
  | stop
  | ready
  | active
  deriving DecidableEq, Repr

/-- `LTDCD1` and the peripheral it drives. `thread` is the waiting thread of
`LTDC_USE_WAIT`, `none` for `NULL`. -/
structure LTDCDriver where
  state : LtdcState
  config : Option LTDCConfig
  active_window : LtdcWindow
  thread : Option Nat
  hw : Regs

/-- What a layer method reads besides its own block. -/
structure LayerCtx where
  config : Option LTDCConfig
  active_window : LtdcWindow

namespace LTDCDriver

/-- The block of layer `L`. -/
def layer (d : LTDCDriver) (L : LayerId) : LayerRegs := d.hw.layer L

/-- Replace the block of layer `L`. -/
def setLayer (d : LTDCDriver) (L : LayerId) (lr : LayerRegs) : LTDCDriver :=
  { d with hw := d.hw.setLayer L lr }

/-- The context of a layer method. -/
def ctx (d : LTDCDriver) : LayerCtx := ⟨d.config, d.active_window⟩

/-- The driver with its two layer blocks exchanged. -/
def swap (d : LTDCDriver) : LTDCDriver := { d with hw := d.hw.swap }

@[simp] theorem layer_swap (d : LTDCDriver) (L : LayerId) : d.swap.layer L = d.layer L.swap :=
  Regs.layer_swap _ _

@[simp] theorem ctx_swap (d : LTDCDriver) : d.swap.ctx = d.ctx := rfl

@[simp] theorem ctx_setLayer (d : LTDCDriver) (L : LayerId) (lr : LayerRegs) :
    (d.setLayer L lr).ctx = d.ctx := rfl

@[simp] theorem layer_setLayer_self (d : LTDCDriver) (L : LayerId) (lr : LayerRegs) :
    (d.setLayer L lr).layer L = lr :=
  Regs.layer_setLayer_self _ _ _

@[simp] theorem swap_swap (d : LTDCDriver) : d.swap.swap = d := rfl

theorem swap_setLayer (d : LTDCDriver) (L : LayerId) (lr : LayerRegs) :
    (d.setLayer L lr).swap = d.swap.setLayer L.swap lr := by
  simp only [setLayer, swap, Regs.swap_setLayer]

end LTDCDriver

/-! ## Monads -/

/-- A layer method: reads and writes one layer block. -/
abbrev LayerM := StateT LayerRegs (Except LayerFault)

/-- A driver operation on `LTDCD1` and the peripheral. -/
abbrev DriverM := StateT LTDCDriver (Except Fault)

/-- `chDbgCheck`/`chDbgAssert`: go on when `c` holds, halt with `e` otherwise. -/
def chDbgAssert {σ ε : Type} (c : Prop) [Decidable c] (e : ε) : StateT σ (Except ε) Unit :=
  if c then pure () else throw e

@[simp] theorem chDbgAssert_run {σ ε : Type} (c : Prop) [Decidable c] (e : ε) (s : σ) :
    (chDbgAssert c e : StateT σ (Except ε) Unit).run s = if c then .ok ((), s) else .error e := by
  unfold chDbgAssert; split <;> rfl

@[simp] theorem throw_run {σ ε α : Type} (e : ε) (s : σ) :
    (throw e : StateT σ (Except ε) α).run s = .error e := rfl

@[simp] theorem ok_bind {ε α β : Type} (a : α) (f : α → Except ε β) :
    (Except.ok a >>= f) = f a := rfl

@[simp] theorem error_bind {ε α β : Type} (e : ε) (f : α → Except ε β) :
    (Except.error e >>= f) = Except.error e := rfl

/-- A computation that returns went through each of its binds. -/
theorem run_bind_ok {σ ε α β : Type} {m : StateT σ (Except ε) α} {k : α → StateT σ (Except ε) β}
    {s : σ} {r : β × σ} (h : (m >>= k).run s = .ok r) :
    ∃ a s₁, m.run s = .ok (a, s₁) ∧ (k a).run s₁ = .ok r := by
  simp only [StateT.run_bind] at h
  cases hm : m.run s with
  | error e => rw [hm] at h; cases h
  | ok p => rw [hm] at h; exact ⟨p.1, p.2, rfl, h⟩

/-- A bind whose first computation returns continues from where it left off. -/
theorem run_bind_of_ok {σ ε α β : Type} {m : StateT σ (Except ε) α} {k : α → StateT σ (Except ε) β}
    {s s₁ : σ} {a : α} (h : m.run s = .ok (a, s₁)) : (m >>= k).run s = (k a).run s₁ := by
  simp only [StateT.run_bind, h, ok_bind]

/-- `m` leaves the part `f` of the state as it was, whenever it returns. -/
def Frame {σ ε α β : Type} (f : σ → α) (m : StateT σ (Except ε) β) : Prop :=
  ∀ s b s', m.run s = .ok (b, s') → f s' = f s

namespace Frame

variable {σ ε α β γ : Type} {f : σ → α}

theorem pure (b : β) : Frame f (Pure.pure b : StateT σ (Except ε) β) := by
  intro s b' s' h
  cases h
  rfl

theorem bind {m : StateT σ (Except ε) β} {k : β → StateT σ (Except ε) γ} (hm : Frame f m)
    (hk : ∀ b, Frame f (k b)) : Frame f (m >>= k) := by
  intro s c s' h
  obtain ⟨b, s₁, h₁, h₂⟩ := run_bind_ok h
  exact (hk b _ _ _ h₂).trans (hm _ _ _ h₁)

theorem get : Frame f (MonadState.get : StateT σ (Except ε) σ) := by
  intro s b s' h
  cases h
  rfl

theorem modify {g : σ → σ} (hg : ∀ s, f (g s) = f s) :
    Frame f (modify g : StateT σ (Except ε) PUnit) := by
  intro s b s' h
  cases h
  exact hg s

theorem throw (e : ε) : Frame f (MonadExcept.throw e : StateT σ (Except ε) β) := by
  intro s b s' h
  cases h

theorem chDbgAssert (c : Prop) [Decidable c] (e : ε) :
    Frame f (Ltdc.chDbgAssert c e : StateT σ (Except ε) Unit) := by
  intro s b s' h
  rw [chDbgAssert_run] at h
  split at h <;> cases h
  rfl

theorem ite {c : Prop} [Decidable c] {a b : StateT σ (Except ε) β} (ha : Frame f a)
    (hb : Frame f b) : Frame f (if c then a else b) := by
  split <;> assumption

/-- What a part of the frame determines is kept too. -/
theorem comp {m : StateT σ (Except ε) β} (g : α → γ) (hm : Frame f m) : Frame (g ∘ f) m :=
  fun s b s' h => congrArg g (hm s b s' h)

end Frame

/-- The running configuration, halting on `NULL`. -/
def LayerCtx.cfg (ctx : LayerCtx) : LayerM LTDCConfig :=
  match ctx.config with
  | some c => pure c
  | none => throw .nullConfig

/-- A layer method run on the block of layer `L`. -/
def onLayer {α : Type} (L : LayerId) (m : LayerCtx → LayerM α) : DriverM α := fun d =>
  match (m d.ctx).run (d.layer L) with
  | .ok (a, lr) => .ok (a, d.setLayer L lr)
  | .error e => .error (e.toFault L)

theorem onLayer_run {α : Type} (L : LayerId) (m : LayerCtx → LayerM α) (d : LTDCDriver) :
    (onLayer L m).run d = match (m d.ctx).run (d.layer L) with
      | .ok (a, lr) => .ok (a, d.setLayer L lr)
      | .error e => .error (e.toFault L) := rfl

/-- A layer method that returns on the driver returned on its block. -/
theorem onLayer_run_ok {α : Type} {L : LayerId} {m : LayerCtx → LayerM α} {d d' : LTDCDriver}
    {a : α} (h : (onLayer L m).run d = .ok (a, d')) :
    ∃ lr, (m d.ctx).run (d.layer L) = .ok (a, lr) ∧ d' = d.setLayer L lr := by
  rw [onLayer_run] at h
  split at h
  next a' lr hm => cases h; exact ⟨lr, hm, rfl⟩
  next => cases h

end Ltdc
