import DisplayHal.Ltdc.Driver

/-!
# The colour look-up table

`ltdcXxSetPaletteColorI` writes one CLUT slot through `CLUTWR`; `ltdcXxSetPaletteI`
writes slots `0 .. length - 1` from an array in a loop (`paletteLoop`). Both first
assert that the layer is disabled, through `ltdcXxIsEnabledI`.

The loop is proved in two steps. A word `(i << 24) | (c & 0xFFFFFF)` with `i < 256`
writes `c & 0xFFFFFF` into slot `i` and nothing else (`writeCLUTWR_palette_word`), so
after `length ≤ 256` rounds slot `i` holds entry `i` for every `i < length` and every
other slot and register is as it was (`paletteLoop_eq`). The same two lemmas show that
the loop does what `length` calls of `ltdcXxSetPaletteColorI` in order do
(`paletteColorsInOrder_run`).

The disabled check is `(CR & ~LTDC_LxCR_LEN) == 0`: it reads every bit of `CR` except
the layer-enable bit, so a disabled layer with its CLUT enabled is refused and an
enabled layer with no other bit set is written (`clut_enabled_layer_rejected`).
-/

namespace Ltdc

/-! ## One write -/

/-- A palette word `(i << 24) | (c & 0xFFFFFF)` writes `c & 0xFFFFFF` into slot `i`. -/
theorem writeCLUTWR_palette_word (lr : LayerRegs) {i : Nat} (hi : i < 256) (c : Nat) :
    lr.writeCLUTWR ((i <<< 24) ||| (c &&& 0x00FFFFFF)) =
      { lr with clut := Function.update lr.clut ⟨i, hi⟩ (c &&& 0x00FFFFFF) } := by
  have ha : c &&& 0x00FFFFFF < 2 ^ 24 := Nat.and_lt_two_pow c (by decide)
  have hw : (i <<< 24) ||| (c &&& 0x00FFFFFF) = (c &&& 0x00FFFFFF) + i * 2 ^ 24 := by
    rw [Nat.or_comm, or_shiftLeft_eq_add _ _ ha]
  have hslot : clutSlot ((i <<< 24) ||| (c &&& 0x00FFFFFF)) = ⟨i, hi⟩ := by
    rw [clutSlot, Fin.mk.injEq, hw, Nat.shiftRight_eq_div_pow]
    omega
  have hlow : ((i <<< 24) ||| (c &&& 0x00FFFFFF)) &&& 0x00FFFFFF = c &&& 0x00FFFFFF := by
    have hm : ∀ x : Nat, x &&& 0x00FFFFFF = x % 2 ^ 24 := fun x => and_low_mask x 24
    rw [hw, hm ((c &&& 0x00FFFFFF) + i * 2 ^ 24)]
    omega
  rw [LayerRegs.writeCLUTWR, hslot, hlow]

/-! ## The loop -/

theorem paletteLoop_succ (cs : List Nat) (n : Nat) (lr : LayerRegs) :
    paletteLoop cs (n + 1) lr =
      (paletteLoop cs n lr).writeCLUTWR ((n <<< 24) ||| (cs.getD n 0 &&& 0x00FFFFFF)) := by
  simp only [paletteLoop, List.range_succ, List.foldl_append, List.foldl_cons, List.foldl_nil]

/-- After `length ≤ 256` rounds, slot `i` holds entry `i` masked to RGB-888 for every
`i < length`; every other slot and every register is as it was. -/
theorem paletteLoop_eq (cs : List Nat) {n : Nat} (hn : n ≤ 256) (lr : LayerRegs) :
    paletteLoop cs n lr =
      { lr with clut := fun j => if j.val < n then cs.getD j 0 &&& 0x00FFFFFF else lr.clut j } := by
  induction n with
  | zero => rfl
  | succ n ih =>
    rw [paletteLoop_succ, ih (by omega), writeCLUTWR_palette_word _ (by omega)]
    congr 1
    funext j
    rw [Function.update_apply]
    by_cases hj : j.val = n
    · rw [if_pos (Fin.ext hj), if_pos (by omega), hj]
    · rw [if_neg (mt (congrArg Fin.val) hj)]
      exact if_congr (by omega) rfl rfl

/-- What no `CLUTWR` write changes, the loop does not change. -/
theorem paletteLoop_frame {α : Type} (f : LayerRegs → α)
    (hf : ∀ lr w, f (lr.writeCLUTWR w) = f lr) (cs : List Nat) (n : Nat) (lr : LayerRegs) :
    f (paletteLoop cs n lr) = f lr := by
  induction n with
  | zero => rfl
  | succ n ih => rw [paletteLoop_succ, hf, ih]

@[simp] theorem paletteLoop_CR (cs : List Nat) (n : Nat) (lr : LayerRegs) :
    (paletteLoop cs n lr).CR = lr.CR :=
  paletteLoop_frame LayerRegs.CR (fun _ _ => rfl) cs n lr

/-! ## The methods -/

/-- The spec's reading of the palette loop: `ltdcXxSetPaletteColorI(i, colors[i])` for
`i = 0 .. length - 1`, in order. -/
def paletteColorsInOrder (colors : List Nat) (length : Nat) : LayerM Unit :=
  (List.range length).forM fun i => ltdcXxSetPaletteColorI i (colors.getD i 0)

/-- The bit queries read `CR` and change nothing. -/
@[simp] theorem crTestI_run (bit : Nat) (lr : LayerRegs) :
    (crTestI bit).run lr = .ok (decide (lr.CR &&& compl32 bit ≠ 0), lr) := rfl

theorem ltdcXxSetPaletteColorI_run (slot c : Nat) (lr : LayerRegs) :
    (ltdcXxSetPaletteColorI slot c).run lr =
      if lr.CR &&& compl32 LTDC_LxCR_LEN ≠ 0 then .error (.own "SetPaletteColorI(), #1")
      else .ok ((), lr.writeCLUTWR ((slot <<< 24) ||| (c &&& 0x00FFFFFF))) := by
  by_cases h : lr.CR &&& compl32 LTDC_LxCR_LEN = 0 <;>
    simp [ltdcXxSetPaletteColorI, ltdcXxIsEnabledI, StateT.run_bind, h]

theorem ltdcXxSetPaletteI_run {colors : Option (List Nat)} {n : Nat}
    (hnull : colors = none ↔ n = 0) (hn : n ≤ LTDC_MAX_PALETTE_LENGTH) (lr : LayerRegs) :
    (ltdcXxSetPaletteI colors n).run lr =
      if lr.CR &&& compl32 LTDC_LxCR_LEN ≠ 0 then .error (.own "SetPaletteI(), #2")
      else .ok ((), paletteLoop (colors.getD []) n lr) := by
  by_cases h : lr.CR &&& compl32 LTDC_LxCR_LEN = 0 <;>
    simp [ltdcXxSetPaletteI, ltdcXxIsEnabledI, StateT.run_bind, hnull, hn, h]

/-- On a layer whose disabled check passes, the calls of `ltdcXxSetPaletteColorI` in
order end where the loop does. -/
theorem paletteColorsInOrder_run (cs : List Nat) (n : Nat) {lr : LayerRegs}
    (h : lr.CR &&& compl32 LTDC_LxCR_LEN = 0) :
    (paletteColorsInOrder cs n).run lr = .ok ((), paletteLoop cs n lr) := by
  induction n with
  | zero => rfl
  | succ n ih =>
    rw [paletteColorsInOrder, List.range_succ, List.forM_append, StateT.run_bind]
    erw [ih]
    simp only [List.getD_eq_getElem?_getD, List.forM_cons', List.forM_nil', bind_pure_comp, id_map',
      ltdcXxSetPaletteColorI_run, ne_eq, ite_not, ok_bind, paletteLoop_CR, h, ↓reduceIte,
      paletteLoop_succ]

/-- The palette methods on layer `L`. Both halt on their disabled check exactly when a
bit of the layer's `CR` other than `LTDC_LxCR_LEN` is set, which is what
`ltdcXxIsEnabledI` reports. When the check passes, `ltdcXxSetPaletteColorI` writes its
slot, and `ltdcXxSetPaletteI` leaves slot `i` holding `colors[i] & 0xFFFFFF` for every
`i < length` and every other slot and register as it was, which is what
`ltdcXxSetPaletteColorI(i, colors[i])` for `i = 0 .. length - 1` in order does. -/
theorem ltdcXxSetPaletteI_clut (L : LayerId) (colors : Option (List Nat)) (n : Nat)
    (hnull : colors = none ↔ n = 0) (hn : n ≤ LTDC_MAX_PALETTE_LENGTH) (d : LTDCDriver) :
    let lr := d.layer L
    let cs := colors.getD []
    let refused := lr.CR &&& compl32 LTDC_LxCR_LEN ≠ 0
    (onLayer L fun _ => ltdcXxIsEnabledI).run d = .ok (decide refused, d) ∧
      (onLayer L fun _ => ltdcXxSetPaletteI colors n).run d =
        (if refused then .error (.layerPanic L "SetPaletteI(), #2")
         else .ok ((), d.setLayer L { lr with
           clut := fun j => if j.val < n then cs.getD j 0 &&& 0x00FFFFFF else lr.clut j })) ∧
      (∀ slot c, (hs : slot < 256) → (onLayer L fun _ => ltdcXxSetPaletteColorI slot c).run d =
        if refused then .error (.layerPanic L "SetPaletteColorI(), #1")
        else .ok ((), d.setLayer L
          { lr with clut := Function.update lr.clut ⟨slot, hs⟩ (c &&& 0x00FFFFFF) })) ∧
      (¬ refused → (onLayer L fun _ => paletteColorsInOrder cs n).run d =
        (onLayer L fun _ => ltdcXxSetPaletteI colors n).run d) := by
  intro lr cs refused
  refine ⟨?_, ?_, fun slot c hs => ?_, fun hok => ?_⟩
  · rw [onLayer_run]
    simp only [ltdcXxIsEnabledI, crTestI_run, LTDCDriver.setLayer, lr, LTDCDriver.layer,
      Regs.setLayer_layer]
    rfl
  · rw [onLayer_run, ltdcXxSetPaletteI_run hnull hn, paletteLoop_eq _ (by exact hn)]
    split_ifs <;> rfl
  · rw [onLayer_run, ltdcXxSetPaletteColorI_run, writeCLUTWR_palette_word _ hs]
    split_ifs <;> rfl
  · rw [onLayer_run, onLayer_run, paletteColorsInOrder_run _ _ (not_not.mp hok), ltdcXxSetPaletteI_run hnull hn,
      if_neg hok]

/-- A disabled background layer with its CLUT enabled: `ltdcBgGetEnableFlagsI` reports
the layer-enable bit clear, yet `ltdcBgIsEnabledI` answers enabled and
`ltdcBgSetPaletteI` halts; an enabled layer with no other bit set is written. -/
theorem clut_enabled_layer_rejected :
    let d := LTDCD1.setLayer .bg { zeroLayerRegs with CR := LTDC_LxCR_CLUTEN }
    let e := LTDCD1.setLayer .bg { zeroLayerRegs with CR := LTDC_LxCR_LEN }
    ltdcBgGetEnableFlagsI.run d = .ok (LTDC_LxCR_CLUTEN, d) ∧
      ltdcBgIsEnabledI.run d = .ok (true, d) ∧
      (ltdcBgSetPaletteI (some [0xFF0000]) 1).run d = .error (.layerPanic .bg "SetPaletteI(), #2") ∧
      ((ltdcBgSetPaletteI (some [0xFF0000]) 1).run e).map (fun p => (p.2.layer .bg).clut 0) =
        .ok 0xFF0000 := by
  dsimp only
  obtain ⟨h1, h2, -⟩ := ltdcXxSetPaletteI_clut .bg (some [0xFF0000]) 1 (by decide) (by decide)
    (LTDCD1.setLayer .bg { zeroLayerRegs with CR := LTDC_LxCR_CLUTEN })
  obtain ⟨-, h3, -⟩ := ltdcXxSetPaletteI_clut .bg (some [0xFF0000]) 1 (by decide) (by decide)
    (LTDCD1.setLayer .bg { zeroLayerRegs with CR := LTDC_LxCR_LEN })
  refine ⟨by rfl, h1.trans (by rfl), h2.trans (if_pos (by decide)), ?_⟩
  erw [h3]
  rfl

end Ltdc
