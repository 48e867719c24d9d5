import DisplayHal.Ltdc.Pixel

/-!
# Channel expansion of the colour conversions

`ltdcToARGB8888` widens each channel that a format keeps in fewer than eight bits back
to a byte of the ARGB-8888 word. The spec asks for expansion by bit replication: the
channel's bits followed by its own bits again from the most significant end, so that
`v` in five bits becomes `(v << 3) | (v >> 2)` (`replicateBits`). The code does not do
that. A non-zero channel is shifted into place and a constant run of ones is ORed in
below it; a zero channel stays zero (`fillOnes`).

The generic facts are proved once. A byte of a word is `channel`; the byte that
`ltdcToARGB8888` writes for a channel of `ltdcFromARGB8888`'s output, in place, is
`expandLane`, and it is the channel's `fillOnes` shifted into its byte
(`expandLane_eq`). For each of the four formats with sub-byte channels, packing and
expanding a colour gives the OR of its kept channels' lanes, with alpha all ones where
the format has none (`from_to_rgb565` and the three after it).

Over every colour and each of `RGB565`, `ARGB1555`, `ARGB4444` and `AL44`, each kept
channel of the round trip is its top bits followed by ones, so saturated channels stay
saturated and zero channels stay zero; it equals the replicated value exactly when the
top bits are zero or their own leading `min n (8 - n)` bits are all ones
(`ltdcToARGB8888_fills_with_ones`). A dim blue of RGB-565, top bits `00001`, expands
to `0x0F` where replication gives `0x08`.
-/

namespace Ltdc

/-! ## Channels -/

/-- Byte `k` of an ARGB-8888 word: blue, green, red and alpha for `k` from 0 to 3. -/
def channel (x k : Nat) : Nat := (x >>> (8 * k)) &&& 0xFF

/-- The channels each format keeps, as byte of the ARGB-8888 word and width in bits, as
the masks of `ltdcFromARGB8888` select them. The luminance of `L8`, `AL44` and `AL88`
is the blue byte. -/
def storedChannels : Nat → List (Nat × Nat)
  | 0 => [(0, 8), (1, 8), (2, 8), (3, 8)]
  | 1 => [(0, 8), (1, 8), (2, 8)]
  | 2 => [(0, 5), (1, 6), (2, 5)]
  | 3 => [(0, 5), (1, 5), (2, 5), (3, 1)]
  | 4 => [(0, 4), (1, 4), (2, 4), (3, 4)]
  | 5 => [(0, 8)]
  | 6 => [(0, 4), (3, 4)]
  | 7 => [(0, 8), (3, 8)]
  | _ => []

/-- The top `n` bits of channel `k`: what a format of width `n` keeps of it. -/
def topBits (x k n : Nat) : Nat := channel x k >>> (8 - n)

theorem channel_or (a b k : Nat) : channel (a ||| b) k = channel a k ||| channel b k := by
  simp only [channel, shiftRight_or_distrib, Nat.and_distrib_right]

theorem topBits_eq (c k n : Nat) (hn : n ≤ 8) :
    topBits c k n = c / 2 ^ (8 * k + (8 - n)) % 2 ^ n := by
  have h8 : 2 ^ 8 = 2 ^ (8 - n) * 2 ^ n := by rw [← Nat.pow_add, Nat.sub_add_cancel hn]
  rw [topBits, channel, show (0xFF : Nat) = 2 ^ 8 - 1 from rfl, and_low_mask,
    Nat.shiftRight_eq_div_pow, Nat.shiftRight_eq_div_pow, h8, Nat.mod_mul_right_div_self,
    Nat.div_div_eq_div_mul, ← Nat.pow_add]

theorem topBits_lt (c k n : Nat) (hn : n ≤ 8) : topBits c k n < 2 ^ n := by
  rw [topBits_eq c k n hn]
  exact Nat.mod_lt _ (Nat.two_pow_pos n)

/-! ## Expansion, as the code does it and as the spec asks -/

/-- What `ltdcToARGB8888` writes for a channel kept in `n` bits with value `v`: zero
stays zero, any other value is followed by `8 - n` ones. -/
def fillOnes (n v : Nat) : Nat := if v = 0 then 0 else (v <<< (8 - n)) ||| (2 ^ (8 - n) - 1)

/-- The spec's expansion by bit replication: the first `k` bits of `v v v ...`, where `v`
has `n` bits, most significant first. -/
def replicateBits (n v : Nat) : Nat → Nat
  | 0 => 0
  | k + 1 => 2 * replicateBits n v k + (v >>> (n - 1 - k % n)) % 2

example : (∀ v < 32, replicateBits 5 v 8 = (v <<< 3) ||| (v >>> 2)) ∧
    (∀ v < 64, replicateBits 6 v 8 = (v <<< 2) ||| (v >>> 4)) ∧
    (∀ v < 16, replicateBits 4 v 8 = (v <<< 4) ||| v) ∧
    replicateBits 1 0 8 = 0x00 ∧ replicateBits 1 1 8 = 0xFF := by
  decide

theorem fillOnes_all_ones : ∀ n < 8, 0 < n → fillOnes n (2 ^ n - 1) = 0xFF := by
  decide

/-- The two expansions agree exactly on zero and on values whose leading `min n (8 - n)`
bits, the ones replication copies below, are all ones. -/
theorem fillOnes_eq_replicateBits_iff : ∀ n < 8, 0 < n → ∀ v < 2 ^ n,
    (fillOnes n v = replicateBits n v 8 ↔
      v = 0 ∨ v >>> (n - min n (8 - n)) = 2 ^ min n (8 - n) - 1) := by
  decide

theorem fillOnes_lt {n v : Nat} (hn : n ≤ 8) (hv : v < 2 ^ n) : fillOnes n v < 2 ^ 8 := by
  unfold fillOnes
  split
  · exact Nat.two_pow_pos 8
  · have hf : 2 ^ (8 - n) ≤ 2 ^ 8 := Nat.pow_le_pow_right (by decide) (Nat.sub_le 8 n)
    refine Nat.or_lt_two_pow ?_ (by have := Nat.two_pow_pos (8 - n); omega)
    calc v <<< (8 - n) = v * 2 ^ (8 - n) := Nat.shiftLeft_eq v _
      _ < 2 ^ n * 2 ^ (8 - n) := Nat.mul_lt_mul_of_pos_right hv (Nat.two_pow_pos _)
      _ = 2 ^ 8 := by rw [← Nat.pow_add, Nat.add_sub_cancel' hn]

/-! ## Lanes in place -/

/-- The top `n` bits of byte `k`, in place: the mask `ltdcFromARGB8888` reads a channel
through. -/
def laneMask (k n : Nat) : Nat := (2 ^ n - 1) <<< (8 * k + (8 - n))

/-- A kept channel as `ltdcToARGB8888` writes it back, in place: the kept bits and, when
they are not zero, ones below them. -/
def expandLane (c k n : Nat) : Nat :=
  if c &&& laneMask k n ≠ 0 then (c &&& laneMask k n) ||| ((2 ^ (8 - n) - 1) <<< (8 * k)) else 0

/-- A lane in place is the channel's `fillOnes` in its byte. -/
theorem expandLane_eq (c k n : Nat) (hn : n ≤ 8) :
    expandLane c k n = fillOnes n (topBits c k n) <<< (8 * k) := by
  have hm : c &&& laneMask k n = topBits c k n * 2 ^ (8 * k + (8 - n)) := by
    rw [laneMask, and_field_mask, topBits_eq c k n hn]
  unfold expandLane fillOnes
  by_cases h0 : topBits c k n = 0
  · simp [hm, h0]
  · have hp := Nat.two_pow_pos (8 * k + (8 - n))
    rw [if_pos (by rw [hm]; exact Nat.mul_ne_zero h0 hp.ne'), if_neg h0, hm, shiftLeft_or_distrib,
      ← Nat.shiftLeft_add, Nat.add_comm (8 - n), Nat.shiftLeft_eq (topBits c k n)]

/-- A one-bit lane fills its whole byte. -/
theorem expandLane_one (c k : Nat) :
    expandLane c k 1 = if c &&& laneMask k 1 ≠ 0 then (2 ^ 8 - 1) <<< (8 * k) else 0 := by
  have h7 : 2 ^ (8 * k + 7) = 2 ^ 7 <<< (8 * k) := by
    rw [Nat.shiftLeft_eq, ← Nat.pow_add, Nat.add_comm]
  have hm : laneMask k 1 = 2 ^ (8 * k + 7) := by simp [laneMask, Nat.shiftLeft_eq]
  unfold expandLane
  split_ifs with h
  · rw [hm] at h ⊢
    rw [(ite_and_two_pow c _).symm.trans (if_pos h), h7, ← shiftLeft_or_distrib]
    rfl
  · rfl

/-- A byte placed at byte `k` is read back there and nowhere else. -/
theorem channel_shiftLeft {w : Nat} (hw : w < 2 ^ 8) (k j : Nat) :
    channel (w <<< (8 * k)) j = if j = k then w else 0 := by
  apply Nat.eq_of_testBit_eq
  intro i
  rw [channel, show (0xFF : Nat) = 2 ^ 8 - 1 from rfl, Nat.testBit_and, Nat.testBit_two_pow_sub_one,
    Nat.testBit_shiftRight, Nat.testBit_shiftLeft]
  have hw' : ∀ b, 8 ≤ b → w.testBit b = false := fun b hb =>
    Nat.testBit_lt_two_pow (lt_of_lt_of_le hw (Nat.pow_le_pow_right (by decide) hb))
  by_cases hi : i < 8
  · split
    · subst_vars
      simp only [hi, decide_True, ge_iff_le, Nat.le_add_right, Nat.add_sub_cancel_left,
        Bool.true_and, Bool.and_true]
    · rw [Nat.zero_testBit]
      by_cases hjk : k < j
      · simp only [hw' (8 * j + i - 8 * k) (by omega), Bool.and_false, Bool.false_and]
      · have hl : ¬ 8 * j + i ≥ 8 * k := by omega
        simp only [hl, decide_False, Bool.false_and]
  · split <;> simp only [hi, decide_False, Bool.and_false, Nat.zero_testBit, hw' i (by omega)]

theorem channel_expandLane (c k n j : Nat) (hn : n ≤ 8) :
    channel (expandLane c k n) j = if j = k then fillOnes n (topBits c k n) else 0 := by
  rw [expandLane_eq c k n hn, channel_shiftLeft (fillOnes_lt hn (topBits_lt c k n hn))]

theorem channel_alpha_mask (j : Nat) : channel 0xFF000000 j = if j = 3 then 0xFF else 0 :=
  channel_shiftLeft (w := 0xFF) (by decide) 3 j

/-! ## The four formats

Packing reads each kept channel through its lane mask and moves it down into the raw
pixel; expanding moves it back up by the same shift and ORs the ones in below, under
the test that it is not zero. The lane simp set of `Bits` with the two lemmas on a lane
moved down and back up turns each format's round trip into the OR of its lanes. -/

theorem from_to_rgb565 (c : Nat) :
    (ltdcFromARGB8888 c LTDC_FMT_RGB565).bind (ltdcToARGB8888 · LTDC_FMT_RGB565) =
      .ok (0xFF000000 ||| expandLane c 0 5 ||| expandLane c 1 6 ||| expandLane c 2 5) := by
  simp (disch := decide) only [ltdcToARGB8888, ltdcFromARGB8888, LTDC_FMT_RGB565, Except.bind,
    ite_or, expandLane, laneMask, Nat.and_distrib_right, shiftRight_and, and_and_eq_zero,
    and_and_of_sub, Nat.zero_shiftRight, Nat.or_zero, Nat.zero_or, and_shiftRight_shiftLeft,
    and_shiftRight_eq_zero, ne_eq, Nat.reducePow, Nat.reduceSub, Nat.reduceMul, Nat.reduceAdd,
    Nat.reduceShiftLeft, Nat.shiftLeft_zero]

theorem from_to_argb1555 (c : Nat) :
    (ltdcFromARGB8888 c LTDC_FMT_ARGB1555).bind (ltdcToARGB8888 · LTDC_FMT_ARGB1555) =
      .ok (expandLane c 0 5 ||| expandLane c 1 5 ||| expandLane c 2 5 ||| expandLane c 3 1) := by
  rw [expandLane_one]
  simp (disch := decide) only [ltdcToARGB8888, ltdcFromARGB8888, LTDC_FMT_ARGB1555, Except.bind,
    ite_or, expandLane, laneMask, Nat.and_distrib_right, shiftRight_and, and_and_eq_zero,
    and_and_of_sub, Nat.zero_shiftRight, Nat.or_zero, Nat.zero_or, and_shiftRight_shiftLeft,
    and_shiftRight_eq_zero, ne_eq, Nat.reducePow, Nat.reduceSub, Nat.reduceMul, Nat.reduceAdd,
    Nat.reduceShiftLeft, Nat.shiftLeft_zero]

theorem from_to_argb4444 (c : Nat) :
    (ltdcFromARGB8888 c LTDC_FMT_ARGB4444).bind (ltdcToARGB8888 · LTDC_FMT_ARGB4444) =
      .ok (expandLane c 0 4 ||| expandLane c 1 4 ||| expandLane c 2 4 ||| expandLane c 3 4) := by
  simp (disch := decide) only [ltdcToARGB8888, ltdcFromARGB8888, LTDC_FMT_ARGB4444, Except.bind,
    ite_or, expandLane, laneMask, Nat.and_distrib_right, shiftRight_and, and_and_eq_zero,
    and_and_of_sub, Nat.zero_shiftRight, Nat.or_zero, Nat.zero_or, and_shiftRight_shiftLeft,
    and_shiftRight_eq_zero, ne_eq, Nat.reducePow, Nat.reduceSub, Nat.reduceMul, Nat.reduceAdd,
    Nat.reduceShiftLeft, Nat.shiftLeft_zero]

theorem from_to_al44 (c : Nat) :
    (ltdcFromARGB8888 c LTDC_FMT_AL44).bind (ltdcToARGB8888 · LTDC_FMT_AL44) =
      .ok (expandLane c 0 4 ||| expandLane c 3 4) := by
  simp (disch := decide) only [ltdcToARGB8888, ltdcFromARGB8888, LTDC_FMT_AL44, Except.bind,
    ite_or, expandLane, laneMask, Nat.and_distrib_right, shiftRight_and, and_and_eq_zero,
    and_and_of_sub, Nat.zero_shiftRight, Nat.or_zero, Nat.zero_or, and_shiftRight_shiftLeft,
    and_shiftRight_eq_zero, ne_eq, Nat.reducePow, Nat.reduceSub, Nat.reduceMul, Nat.reduceAdd,
    Nat.reduceShiftLeft, Nat.shiftLeft_zero]

/-! ## Expansion after packing -/

/-- For every colour `c` and each of the formats `RGB565`, `ARGB1555`, `ARGB4444` and
`AL44`, expanding the packed colour returns a word in which each channel the format
keeps in `n < 8` bits is the channel's top bits followed by ones (zero when they are
zero, `0xFF` when they are all ones), and equals their replication exactly when they are
zero or their leading `min n (8 - n)` bits are all ones. A byte the format keeps nothing
in is `0xFF` for alpha and zero otherwise. -/
theorem ltdcToARGB8888_fills_with_ones (F : Nat)
    (hF : F ∈ [LTDC_FMT_RGB565, LTDC_FMT_ARGB1555, LTDC_FMT_ARGB4444, LTDC_FMT_AL44]) (c : Nat) :
    ∃ r, (ltdcFromARGB8888 c F).bind (ltdcToARGB8888 · F) = .ok r ∧
      (∀ k n, (k, n) ∈ storedChannels F → n < 8 →
        channel r k = fillOnes n (topBits c k n) ∧
        (topBits c k n = 0 → channel r k = 0) ∧
        (topBits c k n = 2 ^ n - 1 → channel r k = 0xFF) ∧
        (channel r k = replicateBits n (topBits c k n) 8 ↔
          topBits c k n = 0 ∨ topBits c k n >>> (n - min n (8 - n)) = 2 ^ min n (8 - n) - 1)) ∧
      (∀ k < 4, k ∉ (storedChannels F).map Prod.fst → channel r k = if k = 3 then 0xFF else 0) := by
  obtain ⟨r, hr, hkept, habsent⟩ : ∃ r, (ltdcFromARGB8888 c F).bind (ltdcToARGB8888 · F) = .ok r ∧
      (∀ p ∈ storedChannels F, 0 < p.2 ∧ channel r p.1 = fillOnes p.2 (topBits c p.1 p.2)) ∧
      (∀ k < 4, k ∉ (storedChannels F).map Prod.fst → channel r k = if k = 3 then 0xFF else 0) := by
    simp only [List.mem_cons, List.mem_singleton, List.not_mem_nil, or_false] at hF
    rcases hF with rfl | rfl | rfl | rfl <;>
      refine ⟨_, by first | exact from_to_rgb565 c | exact from_to_argb1555 c |
        exact from_to_argb4444 c | exact from_to_al44 c, fun p hp => ?_, fun k hk habs => ?_⟩
    -- each kept channel is read from its lane; every other byte from the constants
    all_goals first
      | (simp only [LTDC_FMT_RGB565, LTDC_FMT_ARGB1555, LTDC_FMT_ARGB4444, LTDC_FMT_AL44,
          storedChannels, List.mem_cons, List.mem_singleton, List.not_mem_nil, or_false] at hp
         rcases hp with rfl | rfl | rfl | rfl)
      | (interval_cases k <;> try exact absurd (by decide) habs)
    all_goals simp (disch := decide) only [channel_or, channel_expandLane, channel_alpha_mask,
      Nat.reduceEqDiff, ↓reduceIte, Nat.or_zero, Nat.zero_or, Nat.ofNat_pos, Nat.zero_lt_one,
      true_and, and_true]
  refine ⟨r, hr, fun k n hkn hn => ?_, habsent⟩
  obtain ⟨hpos, hk⟩ := hkept (k, n) hkn
  rw [hk]
  exact ⟨rfl, fun h0 => by rw [h0]; rfl, fun h1 => by rw [h1]; exact fillOnes_all_ones n hn hpos,
    fillOnes_eq_replicateBits_iff n hn hpos _ (topBits_lt c k n (by omega))⟩

/-- The saturated green of RGB-565 expands back to `0xFF`, and the alpha RGB-565 lacks is
`0xFF`. -/
theorem rgb565_green_filled :
    ∃ r, (ltdcFromARGB8888 0x00FF00 LTDC_FMT_RGB565).bind (ltdcToARGB8888 · LTDC_FMT_RGB565) = .ok r ∧
      channel r 1 = 0xFF ∧ channel r 3 = 0xFF := by
  obtain ⟨r, hr, hkept, habsent⟩ :=
    ltdcToARGB8888_fills_with_ones LTDC_FMT_RGB565 (by decide) 0x00FF00
  exact ⟨r, hr, (hkept 1 6 (by decide) (by decide)).2.2.1 (by decide),
    (habsent 3 (by decide) (by decide)).trans (if_pos rfl)⟩

/-- A dim blue of RGB-565, top bits `00001`, expands to `0x0F`, where replication of its
bits gives `0x08`. -/
theorem rgb565_dim_blue_filled :
    ∃ r, (ltdcFromARGB8888 0x08 LTDC_FMT_RGB565).bind (ltdcToARGB8888 · LTDC_FMT_RGB565) = .ok r ∧
      topBits 0x08 0 5 = 1 ∧ channel r 0 = 0x0F ∧ replicateBits 5 1 8 = 0x08 :=
  ⟨_, rfl, by decide, by decide, by decide⟩

end Ltdc
