import DisplayHal.Ltdc.Pixel

/-!
# Layer methods

The background (layer 1) and foreground (layer 2) methods of the source are two
hand-copied blocks that differ only in the register block they name and in the
`Bg`/`Fg` of their messages. Each method is written once here, as `ltdcXx<method>`
in `LayerM`, from the background copy; `ltdcBg<method>` and `ltdcFg<method>` are that
definition run by `onLayer` on `LTDC_Layer1` and `LTDC_Layer2`.

A method reads the running configuration and the active window through its
`LayerCtx` and nothing else of the driver. Three checks need a word: the
`ltdcp == &LTDCD1` check of every method always holds for the singleton driver and
is left out; the getters' checks that the caller's output storage is not `NULL`
are left out, the getters returning their values; and `ltdcXxIsEnabledI` with its
`CLUTEN`/`COLKEN` siblings test `CR & ~bit`, as the source does. The three bit queries,
the three `CR |= bit` and the three `CR &= ~bit` methods are one definition each
(`crTestI`, `crSetI`, `crClearI`) applied to the bit, and the field setters share the
read-modify-write `rmw`.
-/

namespace Ltdc


/-- A halt of a function outside the layer blocks, inside a layer method. -/
def ofPanic {α : Type} : Except String α → LayerM α
  | .ok a => pure a
  | .error m => throw (.panic m)

/-- `ltdc_invalid_frame`: one pixel of `L8` at the `NULL` address. -/
def ltdc_invalid_frame : LtdcFrame := ⟨0, 1, 1, 1, LTDC_FMT_L8⟩

/-- `ltdc_invalid_window`: the placeholder window of a fresh object and of
`ltdc_default_laycfg`. -/
def ltdc_invalid_window : LtdcWindow := ⟨0, 1, 0, 1⟩

/-- `ltdc_default_laycfg`: invalid frame and window, black, no palette, disabled. -/
def ltdc_default_laycfg (H : LtdcHeader) : LtdcLaycfg :=
  ⟨some ltdc_invalid_frame, some ltdc_invalid_window, LTDC_COLOR_BLACK, 0x00, LTDC_COLOR_BLACK,
    none, 0, H.LTDC_BLEND_FIX1_FIX2, 0⟩

/-! ## The methods, once -/

def ltdcXxGetEnableFlagsI : LayerM Nat := return (← get).CR &&& LTDC_LEF_MASK

def ltdcXxSetEnableFlagsI (flags : Nat) : LayerM Unit :=
  modify fun lr => { lr with CR := rmw lr.CR LTDC_LEF_MASK flags }

/-- The test of the three `CR` bit queries, `(CR & ~bit) != 0` as the source writes
it: it reads every bit of `CR` but `bit`. -/
def crTestI (bit : Nat) : LayerM Bool := return (← get).CR &&& compl32 bit ≠ 0

/-- `CR |= bit`. -/
def crSetI (bit : Nat) : LayerM Unit := modify fun lr => { lr with CR := lr.CR ||| bit }

/-- `CR &= ~bit`. -/
def crClearI (bit : Nat) : LayerM Unit := modify fun lr => { lr with CR := lr.CR &&& compl32 bit }

/-- `ltdcXxIsEnabledI`: true when any bit of `CR` but `LEN` is set. -/
def ltdcXxIsEnabledI : LayerM Bool := crTestI LTDC_LxCR_LEN

def ltdcXxEnableI : LayerM Unit := crSetI LTDC_LxCR_LEN

def ltdcXxDisableI : LayerM Unit := crClearI LTDC_LxCR_LEN

/-- `ltdcXxIsPaletteEnabledI`: true when any bit of `CR` but `CLUTEN` is set. -/
def ltdcXxIsPaletteEnabledI : LayerM Bool := crTestI LTDC_LxCR_CLUTEN

def ltdcXxEnablePaletteI : LayerM Unit := crSetI LTDC_LxCR_CLUTEN

def ltdcXxDisablePaletteI : LayerM Unit := crClearI LTDC_LxCR_CLUTEN

/-- `ltdcXxSetPaletteColorI`: one palette entry, refused on a layer that
`ltdcXxIsEnabledI` calls enabled. -/
def ltdcXxSetPaletteColorI (slot c : Nat) : LayerM Unit := do
  chDbgAssert (!(← ltdcXxIsEnabledI)) (.own "SetPaletteColorI(), #1")
  modify fun lr => lr.writeCLUTWR ((slot <<< 24) ||| (c &&& 0x00FFFFFF))

/-- The loop of `ltdcXxSetPaletteI`: entry `i` goes to slot `i`. -/
def paletteLoop (colors : List Nat) (length : Nat) (lr : LayerRegs) : LayerRegs :=
  (List.range length).foldl
    (fun lr i => lr.writeCLUTWR ((i <<< 24) ||| (colors.getD i 0 &&& 0x00FFFFFF))) lr

/-- `ltdcXxSetPaletteI`; `colors` is the palette pointer, `none` for `NULL`. -/
def ltdcXxSetPaletteI (colors : Option (List Nat)) (length : Nat) : LayerM Unit := do
  chDbgAssert ((colors = none) ↔ (length = 0)) (.own "SetPaletteI()")
  chDbgAssert (length ≤ LTDC_MAX_PALETTE_LENGTH) (.own "SetPaletteI(), #1")
  chDbgAssert (!(← ltdcXxIsEnabledI)) (.own "SetPaletteI(), #2")
  modify (paletteLoop (colors.getD []) length)

def ltdcXxGetPixelFormatI : LayerM Nat := return (← get).PFCR &&& LTDC_LxPFCR_PF

def ltdcXxSetPixelFormatI (fmt : Nat) : LayerM Unit := do
  chDbgAssert (fmt ≥ LTDC_MIN_PIXFMT_ID) (.own "SetPixelFormatI(), #2")
  chDbgAssert (fmt ≤ LTDC_MAX_PIXFMT_ID) (.own "SetPixelFormatI(), #3")
  modify fun lr => { lr with PFCR := rmw lr.PFCR LTDC_LxPFCR_PF fmt }

/-- `ltdcXxIsKeyingEnabledI`: true when any bit of `CR` but `COLKEN` is set. -/
def ltdcXxIsKeyingEnabledI : LayerM Bool := crTestI LTDC_LxCR_COLKEN

def ltdcXxEnableKeyingI : LayerM Unit := crSetI LTDC_LxCR_COLKEN

def ltdcXxDisableKeyingI : LayerM Unit := crClearI LTDC_LxCR_COLKEN

def ltdcXxGetKeyingColorI : LayerM Nat := return (← get).CKCR &&& 0x00FFFFFF

def ltdcXxSetKeyingColorI (c : Nat) : LayerM Unit :=
  modify fun lr => { lr with CKCR := rmw lr.CKCR 0x00FFFFFF c }

def ltdcXxGetConstantAlphaI : LayerM Nat := return (← get).CACR &&& LTDC_LxCACR_CONSTA

def ltdcXxSetConstantAlphaI (a : Nat) : LayerM Unit :=
  modify fun lr => { lr with CACR := rmw lr.CACR LTDC_LxCACR_CONSTA a }

def ltdcXxGetDefaultColorI : LayerM Nat := return (← get).DCCR

def ltdcXxSetDefaultColorI (c : Nat) : LayerM Unit := modify fun lr => { lr with DCCR := c }

def ltdcXxGetBlendingFactorsI : LayerM Nat := return (← get).BFCR &&& LTDC_LxBFCR_BF

def ltdcXxSetBlendingFactorsI (bf : Nat) : LayerM Unit :=
  modify fun lr => { lr with BFCR := rmw lr.BFCR LTDC_LxBFCR_BF bf }

/-- `ltdcXxGetWindowI`: the absolute corners held in `WHPCR` and `WVPCR`. -/
def ltdcXxGetWindowI : LayerM LtdcWindow := do
  let lr ← get
  return { hstart := ((lr.WHPCR &&& LTDC_LxWHPCR_WHSTPOS) >>> 0) % 2 ^ 16
           hstop := ((lr.WHPCR &&& LTDC_LxWHPCR_WHSPPOS) >>> 16) % 2 ^ 16
           vstart := ((lr.WVPCR &&& LTDC_LxWVPCR_WVSTPOS) >>> 0) % 2 ^ 16
           vstop := ((lr.WVPCR &&& LTDC_LxWVPCR_WVSPPOS) >>> 16) % 2 ^ 16 }

/-- `ltdcXxSetWindowI`: a window relative to the active window, checked and
translated to absolute corners. -/
def ltdcXxSetWindowI (ctx : LayerCtx) (windowp : Option LtdcWindow) : LayerM Unit := do
  chDbgAssert (windowp ≠ none) (.own "SetWindowI()")
  let w := windowp.getD ltdc_invalid_window
  let cfg ← ctx.cfg
  chDbgAssert (w.hstop < cfg.screen_width) (.own "SetWindowI(), #11")
  chDbgAssert (w.vstop < cfg.screen_height) (.own "SetWindowI(), #12")
  let start := w.hstart + ctx.active_window.hstart
  let stop := w.hstop + ctx.active_window.hstart
  chDbgAssert (start ≥ ctx.active_window.hstart) (.own "SetWindowI(), #21")
  chDbgAssert (stop ≤ ctx.active_window.hstop) (.own "SetWindowI(), #22")
  modify fun lr => { lr with WHPCR := ((start <<< 0) &&& LTDC_LxWHPCR_WHSTPOS) |||
                                      ((stop <<< 16) &&& LTDC_LxWHPCR_WHSPPOS) }
  let start := w.vstart + ctx.active_window.vstart
  let stop := w.vstop + ctx.active_window.vstart
  chDbgAssert (start ≥ ctx.active_window.vstart) (.own "SetWindowI(), #31")
  chDbgAssert (stop ≤ ctx.active_window.vstop) (.own "SetWindowI(), #32")
  modify fun lr => { lr with WVPCR := ((start <<< 0) &&& LTDC_LxWVPCR_WVSTPOS) |||
                                      ((stop <<< 16) &&& LTDC_LxWVPCR_WVSPPOS) }

def ltdcXxSetInvalidWindowI (ctx : LayerCtx) : LayerM Unit :=
  ltdcXxSetWindowI ctx (some ltdc_invalid_window)

/-- `ltdcXxGetFrameI`, writing into the caller's storage `framep`: address, pitch,
width (decoded through `ltdcBytesPerPixel`) and height. The source assigns no `fmt`,
so the storage keeps the one it had. -/
def ltdcXxGetFrameI (framep : LtdcFrame) : LayerM LtdcFrame := do
  let lr ← get
  let bpp ← ofPanic (ltdcBytesPerPixel (← ltdcXxGetPixelFormatI))
  return { framep with
    bufferp := lr.CFBAR &&& LTDC_LxCFBAR_CFBADD
    pitch := (lr.CFBLR &&& LTDC_LxCFBLR_CFBP) >>> 16
    width := (subU32 (lr.CFBLR &&& LTDC_LxCFBLR_CFBLL) 3 / bpp) % 2 ^ 16
    height := (lr.CFBLNR &&& LTDC_LxCFBLNR_CFBLNBR) % 2 ^ 16 }

/-- `ltdcXxSetFrameI`: sets the pixel format, checks the geometry and writes it. -/
def ltdcXxSetFrameI (H : LtdcHeader) (ctx : LayerCtx) (framep : Option LtdcFrame) :
    LayerM Unit := do
  chDbgAssert (framep ≠ none) (.own "SetFrameI()")
  let f := framep.getD ltdc_invalid_frame
  ltdcXxSetPixelFormatI f.fmt
  let linesize := (← ofPanic (ltdcBytesPerPixel f.fmt)) * f.width
  let cfg ← ctx.cfg
  chDbgAssert (f.width ≤ cfg.screen_width) (.own "SetFrameI(), #1")
  chDbgAssert (f.height ≤ cfg.screen_height) (.own "SetFrameI(), #2")
  chDbgAssert (linesize ≥ H.LTDC_MIN_FRAME_WIDTH_BYTES) (.own "SetFrameI(), #3")
  chDbgAssert (linesize ≤ H.LTDC_MAX_FRAME_WIDTH_BYTES) (.own "SetFrameI(), #4")
  chDbgAssert (f.height ≥ H.LTDC_MIN_FRAME_HEIGHT_LINES) (.own "SetFrameI(), #5")
  chDbgAssert (f.height ≤ H.LTDC_MAX_FRAME_HEIGHT_LINES) (.own "SetFrameI(), #6")
  chDbgAssert (f.pitch ≥ linesize) (.own "SetFrameI(), #7")
  modify fun lr => { lr with
    CFBAR := f.bufferp &&& LTDC_LxCFBAR_CFBADD
    CFBLR := ((f.pitch <<< 16) &&& LTDC_LxCFBLR_CFBP) ||| ((linesize + 3) &&& LTDC_LxCFBLR_CFBLL)
    CFBLNR := f.height &&& LTDC_LxCFBLNR_CFBLNBR }

def ltdcXxGetFrameAddressI : LayerM Nat := return (← get).CFBAR

def ltdcXxSetFrameAddressI (bufferp : Nat) : LayerM Unit :=
  modify fun lr => { lr with CFBAR := bufferp }

/-- `ltdcXxGetLayerI`: everything but the palette, which the hardware cannot read
back. Frame and window go to the caller's storage; `frame` is what its frame storage
held before. -/
def ltdcXxGetLayerI (frame : LtdcFrame) : LayerM LtdcLaycfg := do
  let frame ← ltdcXxGetFrameI frame
  let window ← ltdcXxGetWindowI
  return { frame := some frame
           window := some window
           def_color := ← ltdcXxGetDefaultColorI
           key_color := ← ltdcXxGetKeyingColorI
           const_alpha := ← ltdcXxGetConstantAlphaI
           blending := ← ltdcXxGetBlendingFactorsI
           pal_colors := none
           pal_length := 0
           flags := ← ltdcXxGetEnableFlagsI }

/-- `ltdcXxSetConfigI`: a whole layer, or `ltdc_default_laycfg` for `NULL`. -/
def ltdcXxSetConfigI (H : LtdcHeader) (ctx : LayerCtx) (cfgp : Option LtdcLaycfg) :
    LayerM Unit := do
  let cfg := cfgp.getD (ltdc_default_laycfg H)
  chDbgAssert ((cfg.pal_colors = none) ↔ (cfg.pal_length = 0)) (.own "SetConfigI()")
  ltdcXxSetFrameI H ctx cfg.frame
  ltdcXxSetWindowI ctx cfg.window
  ltdcXxSetDefaultColorI cfg.def_color
  ltdcXxSetKeyingColorI cfg.key_color
  ltdcXxSetConstantAlphaI cfg.const_alpha
  ltdcXxSetBlendingFactorsI cfg.blending
  if cfg.pal_length > 0 then
    ltdcXxSetPaletteI cfg.pal_colors cfg.pal_length
  ltdcXxSetEnableFlagsI cfg.flags

/-! ## Background and foreground

Each source method, on `LTDC_Layer1` (`ltdcBg`) and on `LTDC_Layer2` (`ltdcFg`). -/

def ltdcBgGetEnableFlagsI : DriverM Nat := onLayer .bg fun _ => ltdcXxGetEnableFlagsI
def ltdcFgGetEnableFlagsI : DriverM Nat := onLayer .fg fun _ => ltdcXxGetEnableFlagsI

def ltdcBgSetEnableFlagsI (flags : Nat) : DriverM Unit := onLayer .bg fun _ => ltdcXxSetEnableFlagsI flags
def ltdcFgSetEnableFlagsI (flags : Nat) : DriverM Unit := onLayer .fg fun _ => ltdcXxSetEnableFlagsI flags

def ltdcBgIsEnabledI : DriverM Bool := onLayer .bg fun _ => ltdcXxIsEnabledI
def ltdcFgIsEnabledI : DriverM Bool := onLayer .fg fun _ => ltdcXxIsEnabledI

def ltdcBgEnableI : DriverM Unit := onLayer .bg fun _ => ltdcXxEnableI
def ltdcFgEnableI : DriverM Unit := onLayer .fg fun _ => ltdcXxEnableI

def ltdcBgDisableI : DriverM Unit := onLayer .bg fun _ => ltdcXxDisableI
def ltdcFgDisableI : DriverM Unit := onLayer .fg fun _ => ltdcXxDisableI

def ltdcBgIsPaletteEnabledI : DriverM Bool := onLayer .bg fun _ => ltdcXxIsPaletteEnabledI
def ltdcFgIsPaletteEnabledI : DriverM Bool := onLayer .fg fun _ => ltdcXxIsPaletteEnabledI

def ltdcBgEnablePaletteI : DriverM Unit := onLayer .bg fun _ => ltdcXxEnablePaletteI
def ltdcFgEnablePaletteI : DriverM Unit := onLayer .fg fun _ => ltdcXxEnablePaletteI

def ltdcBgDisablePaletteI : DriverM Unit := onLayer .bg fun _ => ltdcXxDisablePaletteI
def ltdcFgDisablePaletteI : DriverM Unit := onLayer .fg fun _ => ltdcXxDisablePaletteI

def ltdcBgSetPaletteColorI (slot c : Nat) : DriverM Unit := onLayer .bg fun _ => ltdcXxSetPaletteColorI slot c
def ltdcFgSetPaletteColorI (slot c : Nat) : DriverM Unit := onLayer .fg fun _ => ltdcXxSetPaletteColorI slot c

def ltdcBgSetPaletteI (colors : Option (List Nat)) (length : Nat) : DriverM Unit := onLayer .bg fun _ => ltdcXxSetPaletteI colors length
def ltdcFgSetPaletteI (colors : Option (List Nat)) (length : Nat) : DriverM Unit := onLayer .fg fun _ => ltdcXxSetPaletteI colors length

def ltdcBgGetPixelFormatI : DriverM Nat := onLayer .bg fun _ => ltdcXxGetPixelFormatI
def ltdcFgGetPixelFormatI : DriverM Nat := onLayer .fg fun _ => ltdcXxGetPixelFormatI

def ltdcBgSetPixelFormatI (fmt : Nat) : DriverM Unit := onLayer .bg fun _ => ltdcXxSetPixelFormatI fmt
def ltdcFgSetPixelFormatI (fmt : Nat) : DriverM Unit := onLayer .fg fun _ => ltdcXxSetPixelFormatI fmt

def ltdcBgIsKeyingEnabledI : DriverM Bool := onLayer .bg fun _ => ltdcXxIsKeyingEnabledI
def ltdcFgIsKeyingEnabledI : DriverM Bool := onLayer .fg fun _ => ltdcXxIsKeyingEnabledI

def ltdcBgEnableKeyingI : DriverM Unit := onLayer .bg fun _ => ltdcXxEnableKeyingI
def ltdcFgEnableKeyingI : DriverM Unit := onLayer .fg fun _ => ltdcXxEnableKeyingI

def ltdcBgDisableKeyingI : DriverM Unit := onLayer .bg fun _ => ltdcXxDisableKeyingI
def ltdcFgDisableKeyingI : DriverM Unit := onLayer .fg fun _ => ltdcXxDisableKeyingI

def ltdcBgGetKeyingColorI : DriverM Nat := onLayer .bg fun _ => ltdcXxGetKeyingColorI
def ltdcFgGetKeyingColorI : DriverM Nat := onLayer .fg fun _ => ltdcXxGetKeyingColorI

def ltdcBgSetKeyingColorI (c : Nat) : DriverM Unit := onLayer .bg fun _ => ltdcXxSetKeyingColorI c
def ltdcFgSetKeyingColorI (c : Nat) : DriverM Unit := onLayer .fg fun _ => ltdcXxSetKeyingColorI c

def ltdcBgGetConstantAlphaI : DriverM Nat := onLayer .bg fun _ => ltdcXxGetConstantAlphaI
def ltdcFgGetConstantAlphaI : DriverM Nat := onLayer .fg fun _ => ltdcXxGetConstantAlphaI

def ltdcBgSetConstantAlphaI (a : Nat) : DriverM Unit := onLayer .bg fun _ => ltdcXxSetConstantAlphaI a
def ltdcFgSetConstantAlphaI (a : Nat) : DriverM Unit := onLayer .fg fun _ => ltdcXxSetConstantAlphaI a

def ltdcBgGetDefaultColorI : DriverM Nat := onLayer .bg fun _ => ltdcXxGetDefaultColorI
def ltdcFgGetDefaultColorI : DriverM Nat := onLayer .fg fun _ => ltdcXxGetDefaultColorI

def ltdcBgSetDefaultColorI (c : Nat) : DriverM Unit := onLayer .bg fun _ => ltdcXxSetDefaultColorI c
def ltdcFgSetDefaultColorI (c : Nat) : DriverM Unit := onLayer .fg fun _ => ltdcXxSetDefaultColorI c

def ltdcBgGetBlendingFactorsI : DriverM Nat := onLayer .bg fun _ => ltdcXxGetBlendingFactorsI
def ltdcFgGetBlendingFactorsI : DriverM Nat := onLayer .fg fun _ => ltdcXxGetBlendingFactorsI

def ltdcBgSetBlendingFactorsI (bf : Nat) : DriverM Unit := onLayer .bg fun _ => ltdcXxSetBlendingFactorsI bf
def ltdcFgSetBlendingFactorsI (bf : Nat) : DriverM Unit := onLayer .fg fun _ => ltdcXxSetBlendingFactorsI bf

def ltdcBgGetWindowI : DriverM LtdcWindow := onLayer .bg fun _ => ltdcXxGetWindowI
def ltdcFgGetWindowI : DriverM LtdcWindow := onLayer .fg fun _ => ltdcXxGetWindowI

def ltdcBgSetWindowI (windowp : Option LtdcWindow) : DriverM Unit := onLayer .bg (ltdcXxSetWindowI · windowp)
def ltdcFgSetWindowI (windowp : Option LtdcWindow) : DriverM Unit := onLayer .fg (ltdcXxSetWindowI · windowp)

def ltdcBgSetInvalidWindowI : DriverM Unit := onLayer .bg ltdcXxSetInvalidWindowI
def ltdcFgSetInvalidWindowI : DriverM Unit := onLayer .fg ltdcXxSetInvalidWindowI

def ltdcBgGetFrameI (framep : LtdcFrame) : DriverM LtdcFrame := onLayer .bg fun _ => ltdcXxGetFrameI framep
def ltdcFgGetFrameI (framep : LtdcFrame) : DriverM LtdcFrame := onLayer .fg fun _ => ltdcXxGetFrameI framep

def ltdcBgSetFrameI (H : LtdcHeader) (framep : Option LtdcFrame) : DriverM Unit := onLayer .bg (ltdcXxSetFrameI H · framep)
def ltdcFgSetFrameI (H : LtdcHeader) (framep : Option LtdcFrame) : DriverM Unit := onLayer .fg (ltdcXxSetFrameI H · framep)

def ltdcBgGetFrameAddressI : DriverM Nat := onLayer .bg fun _ => ltdcXxGetFrameAddressI
def ltdcFgGetFrameAddressI : DriverM Nat := onLayer .fg fun _ => ltdcXxGetFrameAddressI

def ltdcBgSetFrameAddressI (bufferp : Nat) : DriverM Unit := onLayer .bg fun _ => ltdcXxSetFrameAddressI bufferp
def ltdcFgSetFrameAddressI (bufferp : Nat) : DriverM Unit := onLayer .fg fun _ => ltdcXxSetFrameAddressI bufferp

def ltdcBgGetLayerI (frame : LtdcFrame) : DriverM LtdcLaycfg := onLayer .bg fun _ => ltdcXxGetLayerI frame
def ltdcFgGetLayerI (frame : LtdcFrame) : DriverM LtdcLaycfg := onLayer .fg fun _ => ltdcXxGetLayerI frame

def ltdcBgSetConfigI (H : LtdcHeader) (cfgp : Option LtdcLaycfg) : DriverM Unit := onLayer .bg (ltdcXxSetConfigI H · cfgp)
def ltdcFgSetConfigI (H : LtdcHeader) (cfgp : Option LtdcLaycfg) : DriverM Unit := onLayer .fg (ltdcXxSetConfigI H · cfgp)
end Ltdc
