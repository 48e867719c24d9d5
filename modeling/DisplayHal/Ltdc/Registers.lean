import Mathlib.Logic.Function.Basic
import DisplayHal.Ltdc.Bits

/-!
# The LTDC register file

The peripheral as the driver sees it: the global registers it programs and the two
layer register blocks, `LTDC_Layer1` (background) and `LTDC_Layer2` (foreground).
`CLUTWR` is write-only; a write stores its low 24 bits into the colour look-up
table at the slot in bits 31..24, so a layer's CLUT is kept as its 256 slots.

The bit definitions come from the device header, which is not among the sources;
the spec says the layouts are those of the target silicon, and the values below are
those. The layer enable-flag mask `LTDC_LEF_MASK` and the global one `LTDC_EF_MASK`
come from the driver header, also absent: the spec describes them as the sets
{layer enable, CLUT enable, colour-keying enable} and {controller enable, dithering,
polarities}.
-/

namespace Ltdc

/-! ## Bit definitions -/

/-- Modelled from the spec: `LTDC_SRCR_IMR`, immediate reload request. -/
def LTDC_SRCR_IMR : Nat := 0x1
/-- Modelled from the spec: `LTDC_SRCR_VBR`, vertical-blank reload request. -/
def LTDC_SRCR_VBR : Nat := 0x2

/-- Modelled from the spec: `LTDC_IER_LIE`, line interrupt enable. -/
def LTDC_IER_LIE : Nat := 0x1
/-- Modelled from the spec: `LTDC_IER_FUIE`, FIFO underrun interrupt enable. -/
def LTDC_IER_FUIE : Nat := 0x2
/-- Modelled from the spec: `LTDC_IER_TERRIE`, transfer error interrupt enable. -/
def LTDC_IER_TERRIE : Nat := 0x4
/-- Modelled from the spec: `LTDC_IER_RRIE`, register reload interrupt enable. -/
def LTDC_IER_RRIE : Nat := 0x8

/-- Modelled from the spec: `LTDC_ISR_LIF`, line interrupt flag. -/
def LTDC_ISR_LIF : Nat := 0x1
/-- Modelled from the spec: `LTDC_ISR_FUIF`, FIFO underrun flag. -/
def LTDC_ISR_FUIF : Nat := 0x2
/-- Modelled from the spec: `LTDC_ISR_TERRIF`, transfer error flag. -/
def LTDC_ISR_TERRIF : Nat := 0x4
/-- Modelled from the spec: `LTDC_ISR_RRIF`, register reload flag. -/
def LTDC_ISR_RRIF : Nat := 0x8

/-- Modelled from the spec: `LTDC_GCR_LTDCEN`, controller enable. -/
def LTDC_GCR_LTDCEN : Nat := 0x1
/-- Modelled from the spec: `LTDC_EF_ENABLE`, the controller-enable flag, `LTDC_GCR_LTDCEN`. -/
def LTDC_EF_ENABLE : Nat := LTDC_GCR_LTDCEN
/-- Modelled from the spec: `LTDC_GCR_DTEN`, dithering enable. -/
def LTDC_GCR_DTEN : Nat := 0x10000
/-- Modelled from the spec: `LTDC_EF_MASK`, controller enable, dithering and the four
polarity bits of `GCR`. -/
def LTDC_EF_MASK : Nat := 0xF0010001

/-- Modelled from the spec: `LTDC_SSCR_HSW`. The horizontal fields of `SSCR`, `BPCR`,
`AWCR` and `TWCR` are 12 bits at bit 16, the vertical ones 11 bits at bit 0. -/
def LTDC_SSCR_HSW : Nat := 0xFFF0000
/-- Modelled from the spec: `LTDC_SSCR_VSH`. -/
def LTDC_SSCR_VSH : Nat := 0x7FF
/-- Modelled from the spec: `LTDC_BPCR_AHBP`. -/
def LTDC_BPCR_AHBP : Nat := 0xFFF0000
/-- Modelled from the spec: `LTDC_BPCR_AVBP`. -/
def LTDC_BPCR_AVBP : Nat := 0x7FF
/-- Modelled from the spec: `LTDC_AWCR_AAW`. -/
def LTDC_AWCR_AAW : Nat := 0xFFF0000
/-- Modelled from the spec: `LTDC_AWCR_AAH`. -/
def LTDC_AWCR_AAH : Nat := 0x7FF
/-- Modelled from the spec: `LTDC_TWCR_TOTALW`. -/
def LTDC_TWCR_TOTALW : Nat := 0xFFF0000
/-- Modelled from the spec: `LTDC_TWCR_TOTALH`. -/
def LTDC_TWCR_TOTALH : Nat := 0x7FF
/-- Modelled from the spec: `LTDC_LIPCR_LIPOS`, line interrupt position. -/
def LTDC_LIPCR_LIPOS : Nat := 0x7FF
/-- Modelled from the spec: `LTDC_CPSR_CXPOS`, current X position. -/
def LTDC_CPSR_CXPOS : Nat := 0xFFFF0000
/-- Modelled from the spec: `LTDC_CPSR_CYPOS`, current Y position. -/
def LTDC_CPSR_CYPOS : Nat := 0xFFFF

/-- Modelled from the spec: `LTDC_LxCR_LEN`, layer enable. -/
def LTDC_LxCR_LEN : Nat := 0x1
/-- Modelled from the spec: `LTDC_LxCR_COLKEN`, colour keying enable. -/
def LTDC_LxCR_COLKEN : Nat := 0x2
/-- Modelled from the spec: `LTDC_LxCR_CLUTEN`, colour look-up table enable. -/
def LTDC_LxCR_CLUTEN : Nat := 0x10
/-- Modelled from the spec: `LTDC_LEF_MASK`, the layer enable flags. -/
def LTDC_LEF_MASK : Nat := 0x13

/-- Modelled from the spec: `LTDC_LxWHPCR_WHSTPOS`, window horizontal start. -/
def LTDC_LxWHPCR_WHSTPOS : Nat := 0xFFF
/-- Modelled from the spec: `LTDC_LxWHPCR_WHSPPOS`, window horizontal stop. -/
def LTDC_LxWHPCR_WHSPPOS : Nat := 0xFFFF0000
/-- Modelled from the spec: `LTDC_LxWVPCR_WVSTPOS`, window vertical start. -/
def LTDC_LxWVPCR_WVSTPOS : Nat := 0xFFF
/-- Modelled from the spec: `LTDC_LxWVPCR_WVSPPOS`, window vertical stop. -/
def LTDC_LxWVPCR_WVSPPOS : Nat := 0xFFFF0000
/-- Modelled from the spec: `LTDC_LxPFCR_PF`, pixel format. -/
def LTDC_LxPFCR_PF : Nat := 0x7
/-- Modelled from the spec: `LTDC_LxCACR_CONSTA`, constant alpha. -/
def LTDC_LxCACR_CONSTA : Nat := 0xFF
/-- Modelled from the spec: `LTDC_LxBFCR_BF1 | LTDC_LxBFCR_BF2`, both blending factors
(the driver's own `LTDC_LxBFCR_BF`). -/
def LTDC_LxBFCR_BF : Nat := 0x707
/-- Modelled from the spec: `LTDC_LxCFBAR_CFBADD`, frame buffer start address. -/
def LTDC_LxCFBAR_CFBADD : Nat := 0xFFFFFFFF
/-- Modelled from the spec: `LTDC_LxCFBLR_CFBLL`, line length in bytes plus 3. -/
def LTDC_LxCFBLR_CFBLL : Nat := 0x1FFF
/-- Modelled from the spec: `LTDC_LxCFBLR_CFBP`, pitch in bytes. -/
def LTDC_LxCFBLR_CFBP : Nat := 0x1FFF0000
/-- Modelled from the spec: `LTDC_LxCFBLNR_CFBLNBR`, number of lines. -/
def LTDC_LxCFBLNR_CFBLNBR : Nat := 0x7FF

/-! ## Layer blocks -/

/-- The two hardware layers: background `LTDC_Layer1`, foreground `LTDC_Layer2`. -/
inductive LayerId
  | bg
  | fg
  deriving DecidableEq, Repr

/-- The other layer. -/
def LayerId.swap : LayerId → LayerId
  | .bg => .fg
  | .fg => .bg

@[simp] theorem LayerId.swap_swap (L : LayerId) : L.swap.swap = L := by cases L <;> rfl

/-- A layer register block `LTDC_Layer_TypeDef`, with the CLUT behind `CLUTWR`. -/
structure LayerRegs where
  CR : Nat
  WHPCR : Nat
  WVPCR : Nat
  CKCR : Nat
  PFCR : Nat
  CACR : Nat
  DCCR : Nat
  BFCR : Nat
  CFBAR : Nat
  CFBLR : Nat
  CFBLNR : Nat
  clut : Fin 256 → Nat

/-- The CLUT slot a `CLUTWR` word addresses: its bits 31..24. -/
def clutSlot (w : Nat) : Fin 256 := ⟨w >>> 24 % 256, Nat.mod_lt _ (by decide)⟩

/-- A write of `w` to `CLUTWR`: bits 23..0 go to the slot in bits 31..24. -/
def LayerRegs.writeCLUTWR (lr : LayerRegs) (w : Nat) : LayerRegs :=
  { lr with clut := Function.update lr.clut (clutSlot w) (w &&& 0xFFFFFF) }

/-- The global registers the driver programs, and the two layer blocks. `ICR` is
write-only: a write clears the matching `ISR` flags, so it is not kept. -/
structure Regs where
  SSCR : Nat
  BPCR : Nat
  AWCR : Nat
  TWCR : Nat
  GCR : Nat
  SRCR : Nat
  IER : Nat
  ISR : Nat
  LIPCR : Nat
  CPSR : Nat
  BCCR : Nat
  layer1 : LayerRegs
  layer2 : LayerRegs

namespace Regs

/-- The block of a layer. -/
def layer (r : Regs) : LayerId → LayerRegs
  | .bg => r.layer1
  | .fg => r.layer2

/-- Replace the block of a layer. -/
def setLayer (r : Regs) : LayerId → LayerRegs → Regs
  | .bg, lr => { r with layer1 := lr }
  | .fg, lr => { r with layer2 := lr }

/-- The register file with the two layer blocks exchanged. -/
def swap (r : Regs) : Regs := { r with layer1 := r.layer2, layer2 := r.layer1 }

@[simp] theorem layer_setLayer_self (r : Regs) (L : LayerId) (lr : LayerRegs) :
    (r.setLayer L lr).layer L = lr := by cases L <;> rfl

@[simp] theorem layer_setLayer_swap (r : Regs) (L : LayerId) (lr : LayerRegs) :
    (r.setLayer L lr).layer L.swap = r.layer L.swap := by cases L <;> rfl

@[simp] theorem setLayer_layer (r : Regs) (L : LayerId) : r.setLayer L (r.layer L) = r := by
  cases L <;> rfl

@[simp] theorem layer_swap (r : Regs) (L : LayerId) : r.swap.layer L = r.layer L.swap := by
  cases L <;> rfl

@[simp] theorem swap_swap (r : Regs) : r.swap.swap = r := rfl

theorem swap_setLayer (r : Regs) (L : LayerId) (lr : LayerRegs) :
    (r.setLayer L lr).swap = r.swap.setLayer L.swap lr := by cases L <;> rfl

end Regs

end Ltdc
