import SubjectMerge.Preview.Progress

/-! Percentages of a preview's rows. As long as a hundred times the rows fit a machine word, which they do for
any listing that fits memory, the percentage is the share rounded down: it rises with the rows done and is a
hundred at most. -/

namespace SubjectMerge

/-- The rows of a listing can be counted in percent without overflow. -/
def Countable (rows : Nat) : Prop := rows * 100 < UInt64.size

theorem Countable.toNat_ofNat {rows : Nat} (h : Countable rows) : (UInt64.ofNat rows).toNat = rows := by
  refine UInt64.toNat_ofNat_of_lt' ?_
  unfold Countable UInt64.size at h
  simp only [UInt64.size]
  omega

theorem Countable.toNat_mul_hundred {rows : Nat} {done : UInt64} (h : Countable rows) (hdone : done.toNat ≤ rows) :
    (done * 100).toNat = done.toNat * 100 := by
  have hfits : done.toNat * 100 < 2 ^ 64 := by
    unfold Countable UInt64.size at h
    omega
  rw [UInt64.toNat_mul]
  exact Nat.mod_eq_of_lt hfits

theorem share_le_hundred {rows done : Nat} (hrows : 0 < rows) (hdone : done ≤ rows) : done * 100 / rows ≤ 100 := by
  rw [Nat.div_le_iff_le_mul hrows]
  omega

/-- Of some rows, so many are done. -/
theorem toNat_percent {rows : Nat} {done : UInt64} (h : Countable rows) (hrows : 0 < rows)
    (hdone : done.toNat ≤ rows) : (percent done (.ofNat rows)).toNat = done.toNat * 100 / rows := by
  have htotal := h.toNat_ofNat
  have hzero : UInt64.ofNat rows ≠ 0 := by
    intro hzero
    rw [hzero] at htotal
    simp at htotal
    omega
  have hshare := share_le_hundred hrows hdone
  rw [percent, if_neg hzero, UInt64.toNat_toUInt32, UInt64.toNat_div, h.toNat_mul_hundred hdone, htotal,
    Nat.mod_eq_of_lt (by omega)]

theorem percent_le {rows : Nat} {done : UInt64} (h : Countable rows) (hdone : done.toNat ≤ rows) :
    percent done (.ofNat rows) ≤ 100 := by
  rcases Nat.eq_zero_or_pos rows with rfl | hrows
  · simp [percent]
  · rw [UInt32.le_iff_toNat_le, toNat_percent h hrows hdone]
    exact share_le_hundred hrows hdone

theorem percent_mono {rows : Nat} {done more : UInt64} (h : Countable rows) (hle : done ≤ more)
    (hmore : more.toNat ≤ rows) : percent done (.ofNat rows) ≤ percent more (.ofNat rows) := by
  rcases Nat.eq_zero_or_pos rows with rfl | hrows
  · simp [percent]
  · have hle := UInt64.le_iff_toNat_le.1 hle
    rw [UInt32.le_iff_toNat_le, toNat_percent h hrows (by omega), toNat_percent h hrows hmore]
    exact Nat.div_le_div_right (by omega)

/-- Only all the rows are a hundred percent. -/
theorem percent_eq_hundred_iff {rows : Nat} {done : UInt64} (h : Countable rows) (hrows : 0 < rows)
    (hdone : done.toNat ≤ rows) : percent done (.ofNat rows) = 100 ↔ done.toNat = rows := by
  have hshare := Nat.div_eq_iff (x := done.toNat * 100) (y := 100) hrows
  rw [← UInt32.toNat_inj, toNat_percent h hrows hdone]
  simp only [UInt32.reduceToNat, hshare]
  omega

end SubjectMerge
