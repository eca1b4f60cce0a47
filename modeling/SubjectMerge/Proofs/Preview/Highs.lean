import Mathlib.Data.List.Induction
import SubjectMerge.Preview
import SubjectMerge.Proofs.Preview.Percent

/-! What is reported of a preview's counts, in whatever order they arrive. The tracker remembers the highest count, so
it reports just the counts that are above all before them. These rise strictly, their percentages rise with them, and
a hundred comes with the last row alone. -/

namespace SubjectMerge

/-- The counts that are above all before them. -/
def newHighs (counts : List UInt64) : List UInt64 :=
  (counts.zipIdx.filter fun (done, place) => (counts.take place).all (· < done)).map Prod.fst

namespace Progress

/-- How far the tracker is after these counts. -/
def after (total : UInt64) (progress : Progress) (counts : List UInt64) : Progress :=
  counts.foldl (fun progress done => (progress.observe done total).2) progress

/-- What comes of the counts of a listing with so many rows. -/
structure Climbs (total : UInt64) (counts : List UInt64) : Prop where
  /-- A count is reported if it is above all before it, as the share of the rows rounded down. -/
  answered : ∀ before done later, counts = before ++ done :: later →
    ((after total {} before).observe done total).1.map UInt32.toNat =
      if before.all (· < done) then some (100 * done.toNat / total.toNat) else none
  reported : (reports total {} counts).map UInt32.toNat =
    (newHighs counts).map fun done => 100 * done.toNat / total.toNat
  /-- Neither the product nor the share is cut off. -/
  exact : ∀ done ∈ counts, (done * 100).toNat = done.toNat * 100 ∧ (done * 100 / total).toNat < UInt32.size
  rising : (reports total {} counts).Pairwise (· ≤ ·)
  bounded : ∀ percent ∈ reports total {} counts, percent ≤ 100
  /-- All is done once if the last row is counted, and never otherwise. -/
  whole : (reports total {} counts).count 100 = if total ∈ counts then 1 else 0
  /-- Counts of all the rows end with all done, in any order. -/
  complete : counts.Perm (Preview.counts total.toNat) → (reports total {} counts).getLast? = some 100

end Progress

/-! Counts above all before them. -/

theorem newHighs_concat (counts : List UInt64) (done : UInt64) :
    newHighs (counts ++ [done]) =
      newHighs counts ++ if counts.all (· < done) then [done] else [] := by
  have hearlier : counts.zipIdx.filter
        (fun (other, place) => ((counts ++ [done]).take place).all (· < other)) =
      counts.zipIdx.filter fun (other, place) => (counts.take place).all (· < other) := by
    refine List.filter_congr ?_
    rintro ⟨other, place⟩ hentry
    have hplace : place < counts.length := by simpa using (List.mem_zipIdx hentry).2.1
    have htake : (counts ++ [done]).take place = counts.take place :=
      List.take_append_of_le_length (Nat.le_of_lt hplace)
    simp only [htake]
  rw [newHighs, List.zipIdx_append, List.filter_append, List.map_append, hearlier, newHighs]
  refine congrArg _ ?_
  have hlast : (counts ++ [done]).take counts.length = counts := List.take_left
  cases hall : counts.all (· < done) with
  | false => simp [hlast, hall]
  | true => simp [hlast, hall]

theorem mem_of_mem_newHighs {counts : List UInt64} {done : UInt64} (h : done ∈ newHighs counts) : done ∈ counts := by
  obtain ⟨⟨other, place⟩, hmem, rfl⟩ := List.mem_map.1 h
  exact List.fst_mem_of_mem_zipIdx (List.mem_filter.1 hmem).1

theorem newHighs_pairwise_lt (counts : List UInt64) : (newHighs counts).Pairwise (· < ·) := by
  induction counts using List.reverseRecOn with
  | nil => exact .nil
  | append_singleton counts done ih =>
    rw [newHighs_concat]
    split
    · next above =>
      refine List.pairwise_append.2 ⟨ih, List.pairwise_singleton _ _, ?_⟩
      intro earlier hearlier later hlater
      rw [List.mem_singleton.1 hlater]
      exact of_decide_eq_true (List.all_eq_true.1 above earlier (mem_of_mem_newHighs hearlier))
    · rwa [List.append_nil]

/-- A count that no other exceeds is above all before it where it first arrives. -/
theorem mem_newHighs_of_greatest {counts : List UInt64} {total : UInt64} (h : total ∈ counts)
    (greatest : ∀ done ∈ counts, done ≤ total) : total ∈ newHighs counts := by
  induction counts using List.reverseRecOn with
  | nil => cases h
  | append_singleton counts done ih =>
    rw [newHighs_concat, List.mem_append]
    by_cases hbefore : total ∈ counts
    · exact Or.inl (ih hbefore fun done hdone => greatest done (List.mem_append_left _ hdone))
    · obtain rfl : total = done := by simpa [hbefore] using h
      have above : counts.all (· < total) = true := by
        refine List.all_eq_true.2 fun earlier hearlier => decide_eq_true ?_
        refine UInt64.lt_of_le_of_ne (greatest earlier (List.mem_append_left _ hearlier)) ?_
        rintro rfl
        exact hbefore hearlier
      rw [if_pos above]
      exact Or.inr (List.mem_singleton_self total)

/-- and it is the last of them. -/
theorem getLast?_newHighs {counts : List UInt64} {total : UInt64} (h : total ∈ counts)
    (greatest : ∀ done ∈ counts, done ≤ total) : (newHighs counts).getLast? = some total := by
  have hrise := newHighs_pairwise_lt counts
  obtain ⟨lower, higher, hsplit⟩ := List.append_of_mem (mem_newHighs_of_greatest h greatest)
  have hnone : higher = [] := by
    refine List.eq_nil_iff_forall_not_mem.2 fun done hdone => ?_
    rw [hsplit, List.pairwise_append, List.pairwise_cons] at hrise
    have hmem : done ∈ newHighs counts := by simp [hsplit, hdone]
    exact UInt64.not_lt.2 (greatest done (mem_of_mem_newHighs hmem)) (hrise.2.1.1 done hdone)
  rw [hsplit, hnone, List.getLast?_concat]

namespace Progress

variable {total : UInt64} {counts : List UInt64}

theorem after_concat (total : UInt64) (progress : Progress) (counts : List UInt64) (done : UInt64) :
    after total progress (counts ++ [done]) = ((after total progress counts).observe done total).2 := by
  rw [after, List.foldl_append]
  rfl

theorem reports_concat (total : UInt64) (progress : Progress) (counts : List UInt64) (done : UInt64) :
    reports total progress (counts ++ [done]) =
      reports total progress counts ++ ((after total progress counts).observe done total).1.toList := by
  induction counts generalizing progress with
  | nil => simp [reports, after]
  | cons first counts ih =>
    simp only [List.cons_append, reports, ih, List.append_assoc]
    rfl

theorem highest_observe_lt_iff (progress : Progress) (total latest done : UInt64) :
    (progress.observe latest total).2.highest < done ↔ progress.highest < done ∧ latest < done := by
  unfold observe
  split
  · next hle => exact ⟨fun h => ⟨h, UInt64.lt_of_le_of_lt hle h⟩, And.left⟩
  · next hlt => exact ⟨fun h => ⟨UInt64.lt_trans (UInt64.not_le.1 hlt) h, h⟩, And.right⟩

/-- The tracker remembers the highest count. -/
theorem highest_after_lt_iff (total : UInt64) (counts : List UInt64) (done : UInt64) :
    (after total {} counts).highest < done ↔ 0 < done ∧ counts.all (· < done) = true := by
  induction counts using List.reverseRecOn with
  | nil => simp [after]
  | append_singleton counts latest ih =>
    rw [after_concat, highest_observe_lt_iff, ih]
    simp only [List.all_append, List.all_cons, List.all_nil, Bool.and_true, Bool.and_eq_true, decide_eq_true_eq,
      and_assoc]

/-- A count is reported if it is above all before it. -/
theorem fst_observe_after (total : UInt64) (before : List UInt64) {done : UInt64} (positive : 0 < done) :
    ((after total {} before).observe done total).1 =
      if before.all (· < done) then some (percent done total) else none := by
  have habove := highest_after_lt_iff total before done
  simp only [positive, true_and] at habove
  rw [← UInt64.not_le] at habove
  unfold observe
  split
  · next hle => rw [if_neg fun above => habove.2 above hle]
  · next hlt => rw [if_pos (habove.1 hlt)]

theorem reports_eq (total : UInt64) {counts : List UInt64} (positive : ∀ done ∈ counts, 0 < done) :
    reports total {} counts = (newHighs counts).map fun done => percent done total := by
  induction counts using List.reverseRecOn with
  | nil => rfl
  | append_singleton counts done ih =>
    simp only [List.forall_mem_append, List.forall_mem_singleton] at positive
    rw [reports_concat, ih positive.1, newHighs_concat, List.map_append, fst_observe_after total counts positive.2]
    split <;> rfl

/-! Counts of a listing's rows. -/

section Listed

variable (listed : 0 < total) (countable : Countable total.toNat)

include countable

theorem percent_le_percent {done more : UInt64} (hle : done ≤ more) (hmore : more ≤ total) :
    percent done total ≤ percent more total := by
  have h := percent_mono countable hle (UInt64.le_iff_toNat_le.1 hmore)
  rwa [UInt64.ofNat_toNat] at h

theorem percent_le_hundred {done : UInt64} (hle : done ≤ total) : percent done total ≤ 100 := by
  have h := percent_le countable (UInt64.le_iff_toNat_le.1 hle)
  rwa [UInt64.ofNat_toNat] at h

include listed

theorem toNat_percent_of_le {done : UInt64} (hle : done ≤ total) :
    (percent done total).toNat = 100 * done.toNat / total.toNat := by
  have h := toNat_percent countable (UInt64.lt_iff_toNat_lt.1 listed) (UInt64.le_iff_toNat_le.1 hle)
  rwa [UInt64.ofNat_toNat, Nat.mul_comm] at h

theorem percent_eq_hundred_of_le {done : UInt64} (hle : done ≤ total) : percent done total = 100 ↔ done = total := by
  have h := percent_eq_hundred_iff countable (UInt64.lt_iff_toNat_lt.1 listed) (UInt64.le_iff_toNat_le.1 hle)
  rwa [UInt64.ofNat_toNat, UInt64.toNat_inj] at h

/-- The counts above all before them are different, so the last row is among them once at most. -/
theorem count_map_percent (greatest : ∀ done ∈ counts, done ≤ total) :
    ((newHighs counts).map fun done => percent done total).count 100 = if total ∈ counts then 1 else 0 := by
  have hnodup : (newHighs counts).Nodup := (newHighs_pairwise_lt counts).imp UInt64.ne_of_lt
  have hmem : total ∈ newHighs counts ↔ total ∈ counts :=
    ⟨mem_of_mem_newHighs, fun h => mem_newHighs_of_greatest h greatest⟩
  have hcount : ((newHighs counts).map fun done => percent done total).count 100 = (newHighs counts).count total := by
    rw [List.count_eq_countP, List.countP_map, List.count_eq_countP]
    refine List.countP_congr fun done hdone => ?_
    simpa using percent_eq_hundred_of_le listed countable (greatest done (mem_of_mem_newHighs hdone))
  rw [hcount, hnodup.count]
  simp only [hmem]

theorem getLast?_map_percent (greatest : ∀ done ∈ counts, done ≤ total) (last : total ∈ counts) :
    ((newHighs counts).map fun done => percent done total).getLast? = some 100 := by
  rw [List.getLast?_map, getLast?_newHighs last greatest, Option.map_some,
    (percent_eq_hundred_of_le listed countable (UInt64.le_refl total)).2 rfl]

end Listed

theorem mem_of_perm_counts (listed : 0 < total) (perm : counts.Perm (Preview.counts total.toNat)) : total ∈ counts := by
  have hrows : 0 < total.toNat := UInt64.lt_iff_toNat_lt.1 listed
  refine perm.mem_iff.2 (List.mem_map.2 ⟨total.toNat - 1, List.mem_range.2 (by omega), ?_⟩)
  rw [Nat.sub_add_cancel hrows, UInt64.ofNat_toNat]

/-- The reports of a listing's counts, in whatever order they arrive. -/
theorem climbs {total : UInt64} {counts : List UInt64} (listed : 0 < total)
    (countable : total.toNat ≤ (UInt64.size - 1) / 100) (counted : ∀ done ∈ counts, 0 < done ∧ done ≤ total) :
    Climbs total counts := by
  have hcountable : Countable total.toNat := by
    unfold Countable
    simp only [UInt64.size] at countable ⊢
    omega
  have hreports := reports_eq total fun done hdone => (counted done hdone).1
  have greatest : ∀ done ∈ counts, done ≤ total := fun done hdone => (counted done hdone).2
  have hhigh : ∀ done ∈ newHighs counts, done ≤ total := fun done hdone => greatest done (mem_of_mem_newHighs hdone)
  constructor
  case answered =>
    rintro before done later rfl
    rw [fst_observe_after total before (counted done (by simp)).1]
    split
    · rw [Option.map_some, toNat_percent_of_le listed hcountable (greatest done (by simp))]
    · rfl
  case reported =>
    rw [hreports, List.map_map]
    exact List.map_congr_left fun done hdone => toNat_percent_of_le listed hcountable (hhigh done hdone)
  case exact =>
    intro done hdone
    have hle := UInt64.le_iff_toNat_le.1 (greatest done hdone)
    have hproduct := hcountable.toNat_mul_hundred hle
    refine ⟨hproduct, ?_⟩
    rw [UInt64.toNat_div, hproduct]
    exact Nat.lt_of_le_of_lt (share_le_hundred (UInt64.lt_iff_toNat_lt.1 listed) hle) (by decide)
  case rising =>
    rw [hreports, List.pairwise_map]
    exact (newHighs_pairwise_lt counts).imp_of_mem fun {done more} _ hmore hlt =>
      percent_le_percent hcountable (UInt64.le_of_lt hlt) (hhigh more hmore)
  case bounded =>
    rw [hreports, List.forall_mem_map]
    exact fun done hdone => percent_le_hundred hcountable (hhigh done hdone)
  case whole =>
    rw [hreports]
    exact count_map_percent listed hcountable greatest
  case complete =>
    intro perm
    rw [hreports]
    exact getLast?_map_percent listed hcountable greatest (mem_of_perm_counts listed perm)

/-- The second of three rows is counted ahead of the first. -/
theorem climbs_overtaken :
    (0 : UInt64) < 3 ∧ (3 : UInt64).toNat ≤ (UInt64.size - 1) / 100 ∧
      (∀ done ∈ ([2, 1, 3] : List UInt64), 0 < done ∧ done ≤ 3) ∧ Climbs 3 [2, 1, 3] ∧
      reports 3 {} [2, 1, 3] = [66, 100] := by
  have counted : ∀ done ∈ ([2, 1, 3] : List UInt64), 0 < done ∧ done ≤ 3 := by simp
  exact ⟨by decide, by decide, counted, climbs (by decide) (by decide) counted, by decide⟩

end Progress

end SubjectMerge
