import DisplayHal.Ltdc.Bits
import DisplayHal.Ltdc.Registers
import DisplayHal.Ltdc.Model
import DisplayHal.Ltdc.Pixel
import DisplayHal.Ltdc.Expansion
import DisplayHal.Ltdc.Layer
import DisplayHal.Ltdc.Symmetry
import DisplayHal.Ltdc.Driver
import DisplayHal.Ltdc.Palette
import DisplayHal.Ltdc.Window
import DisplayHal.Ltdc.Framebuffer
import DisplayHal.Ltdc.Start
import DisplayHal.Ltdc.System
import DisplayHal.Ltdc.Waiter
import DisplayHal.Ltdc.Immediate
import DisplayHal.Ltdc.Vblank
import DisplayHal.Ltdc.Timings
import DisplayHal.Ltdc.ErrorIrq
import DisplayHal.Ltdc.StateMachine
import DisplayHal.Ili9341.Driver
import DisplayHal.Ili9341.Framing
import DisplayHal.Ili9341.Machine
