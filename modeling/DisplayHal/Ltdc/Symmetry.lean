import DisplayHal.Ltdc.Layer

/-!
# The two layer blocks

The background and foreground methods are hand-copied blocks of the source. Here every
method of either block is a call `LayerOp` with its arguments, run by `ltdcBgOp` through
the `ltdcBg…` definitions or by `ltdcFgOp` through the `ltdcFg…` ones, so that one
statement covers every pair.

Two facts make up the contract of the pair:
* isolation: a background call reads only the running configuration, the active window
  and the block of `LTDC_Layer1`, and writes only that block (`TouchesOnly`); a
  foreground call the same with `LTDC_Layer2`;
* symmetry: a foreground call is the background call on the driver whose two blocks are
  exchanged, the blocks exchanged back afterwards, and the fault it raises is the same
  check with `Fg` in place of `Bg` (`DriverM.onSwapped`).

Both follow from one lemma each about `onLayer`, once every call is seen to be
`onLayer` applied to its generic method (`ltdcBgOp_eq_onLayer`).
-/

namespace Ltdc

/-! ## Calls -/

/-- What a layer method returns. -/
inductive LayerResult
  | unit
  | nat (n : Nat)
  | bool (b : Bool)
  | window (w : LtdcWindow)
  | frame (f : LtdcFrame)
  | laycfg (c : LtdcLaycfg)

/-- A call of one layer method, with its arguments. -/
inductive LayerOp
  | getEnableFlags
  | setEnableFlags (flags : Nat)
  | isEnabled
  | enable
  | disable
  | isPaletteEnabled
  | enablePalette
  | disablePalette
  | setPaletteColor (slot c : Nat)
  | setPalette (colors : Option (List Nat)) (length : Nat)
  | getPixelFormat
  | setPixelFormat (fmt : Nat)
  | isKeyingEnabled
  | enableKeying
  | disableKeying
  | getKeyingColor
  | setKeyingColor (c : Nat)
  | getConstantAlpha
  | setConstantAlpha (a : Nat)
  | getDefaultColor
  | setDefaultColor (c : Nat)
  | getBlendingFactors
  | setBlendingFactors (bf : Nat)
  | getWindow
  | setWindow (windowp : Option LtdcWindow)
  | setInvalidWindow
  | getFrame (framep : LtdcFrame)
  | setFrame (framep : Option LtdcFrame)
  | getFrameAddress
  | setFrameAddress (bufferp : Nat)
  | getLayer (frame : LtdcFrame)
  | setConfig (cfgp : Option LtdcLaycfg)

/-- The background methods `ltdcBg…`, as calls. -/
def ltdcBgOp (H : LtdcHeader) : LayerOp → DriverM LayerResult
  | .getEnableFlags => .nat <$> ltdcBgGetEnableFlagsI
  | .setEnableFlags flags => (fun _ => .unit) <$> (ltdcBgSetEnableFlagsI flags)
  | .isEnabled => .bool <$> ltdcBgIsEnabledI
  | .enable => (fun _ => .unit) <$> ltdcBgEnableI
  | .disable => (fun _ => .unit) <$> ltdcBgDisableI
  | .isPaletteEnabled => .bool <$> ltdcBgIsPaletteEnabledI
  | .enablePalette => (fun _ => .unit) <$> ltdcBgEnablePaletteI
  | .disablePalette => (fun _ => .unit) <$> ltdcBgDisablePaletteI
  | .setPaletteColor slot c => (fun _ => .unit) <$> (ltdcBgSetPaletteColorI slot c)
  | .setPalette colors length => (fun _ => .unit) <$> (ltdcBgSetPaletteI colors length)
  | .getPixelFormat => .nat <$> ltdcBgGetPixelFormatI
  | .setPixelFormat fmt => (fun _ => .unit) <$> (ltdcBgSetPixelFormatI fmt)
  | .isKeyingEnabled => .bool <$> ltdcBgIsKeyingEnabledI
  | .enableKeying => (fun _ => .unit) <$> ltdcBgEnableKeyingI
  | .disableKeying => (fun _ => .unit) <$> ltdcBgDisableKeyingI
  | .getKeyingColor => .nat <$> ltdcBgGetKeyingColorI
  | .setKeyingColor c => (fun _ => .unit) <$> (ltdcBgSetKeyingColorI c)
  | .getConstantAlpha => .nat <$> ltdcBgGetConstantAlphaI
  | .setConstantAlpha a => (fun _ => .unit) <$> (ltdcBgSetConstantAlphaI a)
  | .getDefaultColor => .nat <$> ltdcBgGetDefaultColorI
  | .setDefaultColor c => (fun _ => .unit) <$> (ltdcBgSetDefaultColorI c)
  | .getBlendingFactors => .nat <$> ltdcBgGetBlendingFactorsI
  | .setBlendingFactors bf => (fun _ => .unit) <$> (ltdcBgSetBlendingFactorsI bf)
  | .getWindow => .window <$> ltdcBgGetWindowI
  | .setWindow windowp => (fun _ => .unit) <$> (ltdcBgSetWindowI windowp)
  | .setInvalidWindow => (fun _ => .unit) <$> ltdcBgSetInvalidWindowI
  | .getFrame framep => .frame <$> (ltdcBgGetFrameI framep)
  | .setFrame framep => (fun _ => .unit) <$> (ltdcBgSetFrameI H framep)
  | .getFrameAddress => .nat <$> ltdcBgGetFrameAddressI
  | .setFrameAddress bufferp => (fun _ => .unit) <$> (ltdcBgSetFrameAddressI bufferp)
  | .getLayer frame => .laycfg <$> (ltdcBgGetLayerI frame)
  | .setConfig cfgp => (fun _ => .unit) <$> (ltdcBgSetConfigI H cfgp)

/-- The foreground methods `ltdcFg…`, as calls. -/
def ltdcFgOp (H : LtdcHeader) : LayerOp → DriverM LayerResult
  | .getEnableFlags => .nat <$> ltdcFgGetEnableFlagsI
  | .setEnableFlags flags => (fun _ => .unit) <$> (ltdcFgSetEnableFlagsI flags)
  | .isEnabled => .bool <$> ltdcFgIsEnabledI
  | .enable => (fun _ => .unit) <$> ltdcFgEnableI
  | .disable => (fun _ => .unit) <$> ltdcFgDisableI
  | .isPaletteEnabled => .bool <$> ltdcFgIsPaletteEnabledI
  | .enablePalette => (fun _ => .unit) <$> ltdcFgEnablePaletteI
  | .disablePalette => (fun _ => .unit) <$> ltdcFgDisablePaletteI
  | .setPaletteColor slot c => (fun _ => .unit) <$> (ltdcFgSetPaletteColorI slot c)
  | .setPalette colors length => (fun _ => .unit) <$> (ltdcFgSetPaletteI colors length)
  | .getPixelFormat => .nat <$> ltdcFgGetPixelFormatI
  | .setPixelFormat fmt => (fun _ => .unit) <$> (ltdcFgSetPixelFormatI fmt)
  | .isKeyingEnabled => .bool <$> ltdcFgIsKeyingEnabledI
  | .enableKeying => (fun _ => .unit) <$> ltdcFgEnableKeyingI
  | .disableKeying => (fun _ => .unit) <$> ltdcFgDisableKeyingI
  | .getKeyingColor => .nat <$> ltdcFgGetKeyingColorI
  | .setKeyingColor c => (fun _ => .unit) <$> (ltdcFgSetKeyingColorI c)
  | .getConstantAlpha => .nat <$> ltdcFgGetConstantAlphaI
  | .setConstantAlpha a => (fun _ => .unit) <$> (ltdcFgSetConstantAlphaI a)
  | .getDefaultColor => .nat <$> ltdcFgGetDefaultColorI
  | .setDefaultColor c => (fun _ => .unit) <$> (ltdcFgSetDefaultColorI c)
  | .getBlendingFactors => .nat <$> ltdcFgGetBlendingFactorsI
  | .setBlendingFactors bf => (fun _ => .unit) <$> (ltdcFgSetBlendingFactorsI bf)
  | .getWindow => .window <$> ltdcFgGetWindowI
  | .setWindow windowp => (fun _ => .unit) <$> (ltdcFgSetWindowI windowp)
  | .setInvalidWindow => (fun _ => .unit) <$> ltdcFgSetInvalidWindowI
  | .getFrame framep => .frame <$> (ltdcFgGetFrameI framep)
  | .setFrame framep => (fun _ => .unit) <$> (ltdcFgSetFrameI H framep)
  | .getFrameAddress => .nat <$> ltdcFgGetFrameAddressI
  | .setFrameAddress bufferp => (fun _ => .unit) <$> (ltdcFgSetFrameAddressI bufferp)
  | .getLayer frame => .laycfg <$> (ltdcFgGetLayerI frame)
  | .setConfig cfgp => (fun _ => .unit) <$> (ltdcFgSetConfigI H cfgp)

/-- The generic method of a call. -/
def LayerOp.method (H : LtdcHeader) : LayerOp → LayerCtx → LayerM LayerResult
  | .getEnableFlags => fun _ => .nat <$> ltdcXxGetEnableFlagsI
  | .setEnableFlags flags => fun _ => (fun _ => .unit) <$> (ltdcXxSetEnableFlagsI flags)
  | .isEnabled => fun _ => .bool <$> ltdcXxIsEnabledI
  | .enable => fun _ => (fun _ => .unit) <$> ltdcXxEnableI
  | .disable => fun _ => (fun _ => .unit) <$> ltdcXxDisableI
  | .isPaletteEnabled => fun _ => .bool <$> ltdcXxIsPaletteEnabledI
  | .enablePalette => fun _ => (fun _ => .unit) <$> ltdcXxEnablePaletteI
  | .disablePalette => fun _ => (fun _ => .unit) <$> ltdcXxDisablePaletteI
  | .setPaletteColor slot c => fun _ => (fun _ => .unit) <$> (ltdcXxSetPaletteColorI slot c)
  | .setPalette colors length => fun _ => (fun _ => .unit) <$> (ltdcXxSetPaletteI colors length)
  | .getPixelFormat => fun _ => .nat <$> ltdcXxGetPixelFormatI
  | .setPixelFormat fmt => fun _ => (fun _ => .unit) <$> (ltdcXxSetPixelFormatI fmt)
  | .isKeyingEnabled => fun _ => .bool <$> ltdcXxIsKeyingEnabledI
  | .enableKeying => fun _ => (fun _ => .unit) <$> ltdcXxEnableKeyingI
  | .disableKeying => fun _ => (fun _ => .unit) <$> ltdcXxDisableKeyingI
  | .getKeyingColor => fun _ => .nat <$> ltdcXxGetKeyingColorI
  | .setKeyingColor c => fun _ => (fun _ => .unit) <$> (ltdcXxSetKeyingColorI c)
  | .getConstantAlpha => fun _ => .nat <$> ltdcXxGetConstantAlphaI
  | .setConstantAlpha a => fun _ => (fun _ => .unit) <$> (ltdcXxSetConstantAlphaI a)
  | .getDefaultColor => fun _ => .nat <$> ltdcXxGetDefaultColorI
  | .setDefaultColor c => fun _ => (fun _ => .unit) <$> (ltdcXxSetDefaultColorI c)
  | .getBlendingFactors => fun _ => .nat <$> ltdcXxGetBlendingFactorsI
  | .setBlendingFactors bf => fun _ => (fun _ => .unit) <$> (ltdcXxSetBlendingFactorsI bf)
  | .getWindow => fun _ => .window <$> ltdcXxGetWindowI
  | .setWindow windowp => fun ctx => (fun _ => .unit) <$> (ltdcXxSetWindowI ctx windowp)
  | .setInvalidWindow => fun ctx => (fun _ => .unit) <$> (ltdcXxSetInvalidWindowI ctx)
  | .getFrame framep => fun _ => .frame <$> (ltdcXxGetFrameI framep)
  | .setFrame framep => fun ctx => (fun _ => .unit) <$> (ltdcXxSetFrameI H ctx framep)
  | .getFrameAddress => fun _ => .nat <$> ltdcXxGetFrameAddressI
  | .setFrameAddress bufferp => fun _ => (fun _ => .unit) <$> (ltdcXxSetFrameAddressI bufferp)
  | .getLayer frame => fun _ => .laycfg <$> (ltdcXxGetLayerI frame)
  | .setConfig cfgp => fun ctx => (fun _ => .unit) <$> (ltdcXxSetConfigI H ctx cfgp)

/-! ## Exchanging the blocks -/

/-- `m` run on the driver with its two layer blocks exchanged, the blocks exchanged back
afterwards and a layer check reported for the other layer. -/
def DriverM.onSwapped {α : Type} (m : DriverM α) : DriverM α := fun d =>
  match m d.swap with
  | .ok (a, d') => .ok (a, d'.swap)
  | .error e => .error e.swap

/-- The operation reads the configuration, the active window and block `L` of the driver
and nothing else, and writes block `L` and nothing else. -/
def TouchesOnly {α : Type} (L : LayerId) (m : DriverM α) : Prop :=
  ∃ g : LayerCtx → LayerRegs → Except Fault (α × LayerRegs),
    ∀ d, m d = (g d.ctx (d.layer L)).map fun p => (p.1, d.setLayer L p.2)

theorem onLayer_touchesOnly {α : Type} (L : LayerId) (m : LayerCtx → LayerM α) :
    TouchesOnly L (onLayer L m) :=
  ⟨fun c lr => ((m c).run lr).mapError (·.toFault L), fun d => by
    unfold onLayer; split <;> simp only [*] <;> rfl⟩

/-- A layer method run on the other block is the same method on the exchanged driver. -/
theorem onLayer_swap {α : Type} (L : LayerId) (m : LayerCtx → LayerM α) :
    onLayer L.swap m = (onLayer L m).onSwapped := by
  funext d
  simp only [DriverM.onSwapped, onLayer, LTDCDriver.layer_swap, LTDCDriver.ctx_swap,
    LayerId.swap_swap]
  split <;> simp only [*, LTDCDriver.swap_setLayer, LTDCDriver.swap_swap, LayerId.swap_swap,
    LayerFault.toFault_swap]

theorem map_onLayer {α β : Type} (f : α → β) (L : LayerId) (m : LayerCtx → LayerM α) :
    f <$> onLayer L m = onLayer L (fun c => f <$> m c) := by
  funext d
  show Except.map _ (onLayer L m d) = _
  unfold onLayer
  simp only [StateT.run_map]
  split <;> simp only [*] <;> rfl

theorem ltdcBgOp_eq_onLayer (H : LtdcHeader) (op : LayerOp) :
    ltdcBgOp H op = onLayer .bg (op.method H) := by
  cases op <;> exact map_onLayer _ _ _

theorem ltdcFgOp_eq_onLayer (H : LtdcHeader) (op : LayerOp) :
    ltdcFgOp H op = onLayer .fg (op.method H) := by
  cases op <;> exact map_onLayer _ _ _

/-- Every background method touches only `LTDC_Layer1`, every foreground method only
`LTDC_Layer2`, and each foreground method is its background twin on the driver with the
two blocks exchanged, failing the same checks. -/
theorem layer_methods_symmetric (H : LtdcHeader) (op : LayerOp) :
    TouchesOnly .bg (ltdcBgOp H op) ∧ TouchesOnly .fg (ltdcFgOp H op) ∧
      ltdcFgOp H op = (ltdcBgOp H op).onSwapped := by
  rw [ltdcBgOp_eq_onLayer, ltdcFgOp_eq_onLayer]
  exact ⟨onLayer_touchesOnly _ _, onLayer_touchesOnly _ _, onLayer_swap .bg _⟩

end Ltdc
