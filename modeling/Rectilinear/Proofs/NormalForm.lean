import Rectilinear.Cover.Normalize
import Mathlib.Data.List.Permutation
import Rectilinear.Proofs.Apart

/-!
# Normal forms of covers

Normalizing is a run of merges: some two mergeable members are replaced by their bounding box.  What
a single merge keeps, a run of them keeps, whatever the order in which members meet.  The passes end
when no two members are mergeable, so that the normal form of a disjoint cover is canonical.
-/

namespace Rectilinear

namespace Cover

/-!
## Runs of merges

The members are taken up to order.
-/

/-- The second cover results from the first by merging members. -/
inductive Merges : Cover → Cover → Prop where
  | perm {c d : Cover} : c.Perm d → Merges c d
  | hull {r s : Rect} (c : Cover) : r.Mergeable s → Merges (r :: s :: c) (r.hull s :: c)
  | trans {c d e : Cover} : Merges c d → Merges d e → Merges c e

namespace Merges

theorem refl (c : Cover) : Merges c c :=
  perm (List.Perm.refl c)

theorem cons (r : Rect) {c d : Cover} (h : Merges c d) : Merges (r :: c) (r :: d) := by
  induction h with
  | perm hcd => exact perm (hcd.cons r)
  | @hull s t c hst =>
      have hfront : (r :: s :: t :: c).Perm (s :: t :: r :: c) :=
        (List.Perm.swap s r (t :: c)).trans ((List.Perm.swap t r c).cons s)
      have hback : (s.hull t :: r :: c).Perm (r :: s.hull t :: c) :=
        List.Perm.swap r (s.hull t) c
      exact ((perm hfront).trans (hull (r :: c) hst)).trans (perm hback)
  | trans _ _ ihcd ihde => exact ihcd.trans ihde

theorem contains_iff {c d : Cover} (h : Merges c d) (x y : Int) :
    d.Contains x y ↔ c.Contains x y := by
  induction h with
  | perm hcd => exact (contains_perm hcd x y).symm
  | hull c hrs =>
      rw [contains_cons, contains_cons, contains_cons, hrs.contains_hull_iff, or_assoc]
  | trans _ _ ihcd ihde => exact ihde.trans ihcd

theorem inRange {c d : Cover} (h : Merges c d) (hc : c.InRange) : d.InRange := by
  induction h with
  | perm hcd =>
      intro r hr
      exact hc r (hcd.mem_iff.mpr hr)
  | @hull r s c hrs =>
      intro t ht
      rcases List.mem_cons.mp ht with rfl | ht
      · exact Rect.inRange_hull (hc r (by simp)) (hc s (by simp))
      · exact hc t (by simp [ht])
  | trans _ _ ihcd ihde => exact ihde (ihcd hc)

theorem proper {c d : Cover} (h : Merges c d) (hc : c.Proper) : d.Proper := by
  induction h with
  | perm hcd => exact hc.perm hcd
  | @hull r s c hrs =>
      intro t ht
      rcases List.mem_cons.mp ht with rfl | ht
      · exact Rect.not_isEmpty_hull (hc r (by simp)) s
      · exact hc t (by simp [ht])
  | trans _ _ ihcd ihde => exact ihde (ihcd hc)

theorem apart {c d : Cover} (h : Merges c d) (hc : c.Proper) (hapart : c.Apart) : d.Apart := by
  induction h with
  | perm hcd => exact hapart.perm hcd
  | @hull r s c hrs =>
      rcases List.pairwise_cons.mp hapart with ⟨hr, hrest⟩
      rcases List.pairwise_cons.mp hrest with ⟨hs, htail⟩
      refine List.pairwise_cons.mpr ⟨?_, htail⟩
      intro t ht
      exact hrs.not_intersects_hull (hc r (by simp)) (hc s (by simp)) (hc t (by simp [ht]))
        (hr t (by simp [ht])) (hs t ht)
  | trans hcd _ ihcd ihde => exact ihde (hcd.proper hc) (ihcd hc hapart)

theorem length_le {c d : Cover} (h : Merges c d) : d.length ≤ c.length := by
  induction h with
  | perm hcd => exact Nat.le_of_eq hcd.length_eq.symm
  | hull c _ => exact Nat.le_succ _
  | trans _ _ ihcd ihde => exact Nat.le_trans ihde ihcd

end Merges

/-!
## Passes

What a member takes is the first one that fits, and a member that none fits is left as it is.  So a
pass that merges nothing has compared every two members.
-/

theorem takeMergeable_eq_none {r : Rect} {c : Cover} (h : takeMergeable r c = none) :
    ∀ s ∈ c, ¬ r.Mergeable s := by
  induction c with
  | nil => simp
  | cons s c ih =>
      simp only [takeMergeable] at h
      split at h
      · cases h
      · rename_i hrs
        split at h
        · rename_i hnone
          intro t ht
          rcases List.mem_cons.mp ht with rfl | ht
          · exact hrs
          · exact ih hnone t ht
        · cases h

theorem takeMergeable_of_forall {r : Rect} {c : Cover} (h : ∀ s ∈ c, ¬ r.Mergeable s) :
    takeMergeable r c = none := by
  induction c with
  | nil => rfl
  | cons s c ih =>
      rw [takeMergeable, if_neg (h s (by simp)), ih fun t ht => h t (by simp [ht])]

theorem exists_of_takeMergeable {r s : Rect} {c others : Cover}
    (h : takeMergeable r c = some (s, others)) :
    ∃ passed rest, c = passed ++ s :: rest ∧ others = passed ++ rest ∧ r.Mergeable s ∧
      ∀ t ∈ passed, ¬ r.Mergeable t := by
  induction c generalizing s others with
  | nil => simp [takeMergeable] at h
  | cons t c ih =>
      simp only [takeMergeable] at h
      split at h
      · rename_i hrt
        cases h
        exact ⟨[], c, rfl, rfl, hrt, by simp⟩
      · rename_i hrt
        split at h
        · cases h
        · rename_i u tail htake
          cases h
          rcases ih htake with ⟨passed, rest, rfl, rfl, hrs, hpassed⟩
          exact ⟨t :: passed, rest, rfl, rfl, hrs, List.forall_mem_cons.mpr ⟨hrt, hpassed⟩⟩

theorem takeMergeable_eq_some {r s : Rect} {c others : Cover}
    (h : takeMergeable r c = some (s, others)) : r.Mergeable s ∧ c.Perm (s :: others) := by
  rcases exists_of_takeMergeable h with ⟨passed, rest, rfl, rfl, hrs, _⟩
  exact ⟨hrs, List.perm_middle⟩

theorem merges_absorb (r : Rect) (c : Cover) :
    Merges (r :: c) ((absorb r c).1 :: (absorb r c).2) := by
  fun_induction absorb r c with
  | case1 r c => exact Merges.refl (r :: c)
  | case2 r c s others htake ih =>
      rcases takeMergeable_eq_some htake with ⟨hrs, hperm⟩
      exact ((Merges.perm (hperm.cons r)).trans (Merges.hull others hrs)).trans ih

theorem absorb_of_take_none {r : Rect} {c : Cover} (h : takeMergeable r c = none) :
    absorb r c = (r, c) := by
  rw [absorb]
  split
  · rfl
  · rename_i s others htake
    rw [h] at htake
    cases htake

theorem absorb_of_take_some {r s : Rect} {c others : Cover}
    (h : takeMergeable r c = some (s, others)) : absorb r c = absorb (r.hull s) others := by
  rw [absorb]
  split
  · rename_i hnone
    rw [h] at hnone
    cases hnone
  · rename_i t rest hsome
    rw [h] at hsome
    cases hsome
    rfl

theorem absorb_of_forall {r : Rect} {c : Cover} (h : ∀ s ∈ c, ¬ r.Mergeable s) :
    absorb r c = (r, c) :=
  absorb_of_take_none (takeMergeable_of_forall h)

theorem absorb_cons {r s : Rect} {c : Cover} (h : r.Mergeable s) :
    absorb r (s :: c) = absorb (r.hull s) c := by
  apply absorb_of_take_some
  rw [takeMergeable, if_pos h]

theorem forall_of_length_absorb {r : Rect} {c : Cover} (h : (absorb r c).2.length = c.length) :
    ∀ s ∈ c, ¬ r.Mergeable s := by
  cases htake : takeMergeable r c with
  | none => exact takeMergeable_eq_none htake
  | some taken =>
      rw [absorb_of_take_some htake] at h
      have hshort := length_of_takeMergeable htake
      have habsorb := length_absorb_le (r.hull taken.1) taken.2
      omega

theorem merges_mergePass (c : Cover) : Merges c (mergePass c) := by
  fun_induction mergePass c with
  | case1 => exact Merges.refl []
  | case2 r rest absorbed ih => exact (merges_absorb r rest).trans (ih.cons absorbed.1)

theorem mergePass_of_unmergeable {c : Cover} (h : c.Unmergeable) : mergePass c = c := by
  induction c with
  | nil => rw [mergePass]
  | cons r c ih =>
      rcases List.pairwise_cons.mp h with ⟨hr, hc⟩
      rw [mergePass, absorb_of_forall hr, ih hc]

theorem unmergeable_of_length_mergePass {c : Cover} (h : (mergePass c).length = c.length) :
    c.Unmergeable := by
  fun_induction mergePass c with
  | case1 => exact List.Pairwise.nil
  | case2 r rest absorbed ih =>
      have habsorb : absorbed.2.length ≤ rest.length := length_absorb_le r rest
      have hpass : (mergePass absorbed.2).length ≤ absorbed.2.length :=
        length_mergePass_le absorbed.2
      simp only [List.length_cons] at h
      have hidle : absorbed.2.length = rest.length := by omega
      have hr : ∀ s ∈ rest, ¬ r.Mergeable s := forall_of_length_absorb hidle
      have hsame : absorbed.2 = rest := by
        show (absorb r rest).2 = rest
        rw [absorb_of_forall hr]
      refine List.pairwise_cons.mpr ⟨hr, ?_⟩
      rw [hsame] at ih hpass h
      exact ih (by omega)

theorem merges_mergeAll (c : Cover) : Merges c (mergeAll c).cover := by
  fun_induction mergeAll c with
  | case1 c _ rest ih => exact (merges_mergePass c).trans ih
  | case2 c _ => exact Merges.refl c

theorem unmergeable_mergeAll (c : Cover) : (mergeAll c).cover.Unmergeable := by
  fun_induction mergeAll c with
  | case1 c _ rest ih => exact ih
  | case2 c hidle =>
      have hpass := length_mergePass_le c
      have hlength : (mergePass c).length = c.length := by omega
      exact unmergeable_of_length_mergePass hlength

theorem mergeAll_of_unmergeable {c : Cover} (h : c.Unmergeable) : mergeAll c = ⟨c, 1⟩ := by
  rw [mergeAll, if_neg]
  rw [mergePass_of_unmergeable h]
  omega

/-!
## Normal forms

The normal form of a cover results from its non-empty members by merges.  Where no two members are
mergeable it only sorts them, and their order does not matter.
-/

theorem normalize_nonempty (c : Cover) : c.nonempty.normalize = c.normalize := by
  simp only [normalize, normalization, (proper_nonempty c).nonempty_eq]

theorem merges_normalize (c : Cover) : Merges c.nonempty c.normalize :=
  (merges_mergeAll c.nonempty).trans (Merges.perm (perm_sorted _).symm)

theorem proper_normalize (c : Cover) : c.normalize.Proper :=
  (merges_normalize c).proper (proper_nonempty c)

theorem unmergeable_normalize (c : Cover) : c.normalize.Unmergeable :=
  (unmergeable_mergeAll c.nonempty).perm (perm_sorted _).symm

theorem canonical_normalize {c : Cover} (h : c.nonempty.Apart) : c.normalize.Canonical :=
  canonical_iff.mpr
    ⟨proper_normalize c, pairwise_sorted _, (merges_normalize c).apart (proper_nonempty c) h,
      unmergeable_normalize c⟩

theorem Partitions.nonempty {c : Cover} {points : Int → Int → Prop} (h : c.Partitions points) :
    c.nonempty.Partitions points := by
  rw [h.proper.nonempty_eq]
  exact h

theorem Partitions.normalize {c : Cover} {points : Int → Int → Prop}
    (h : c.nonempty.Partitions points) :
    c.normalize.Canonical ∧ c.normalize.Partitions points := by
  have hcanonical := canonical_normalize h.apart
  refine ⟨hcanonical, hcanonical.proper, (merges_normalize c).inRange h.inRange,
    hcanonical.apart, ?_⟩
  intro x y
  exact ((merges_normalize c).contains_iff x y).trans (h.contains_iff x y)

theorem normalize_of_unmergeable {c : Cover} (hproper : c.Proper) (h : c.Unmergeable) :
    c.normalize = c.sorted := by
  simp only [normalize, normalization, hproper.nonempty_eq, mergeAll_of_unmergeable h]

theorem mem_normalize_of_unmergeable {c : Cover} (hproper : c.Proper) (h : c.Unmergeable)
    {r : Rect} : r ∈ c.normalize ↔ r ∈ c := by
  rw [normalize_of_unmergeable hproper h]
  exact (perm_sorted c).mem_iff

theorem length_normalize_of_unmergeable {c : Cover} (hproper : c.Proper) (h : c.Unmergeable) :
    c.normalize.length = c.length := by
  rw [normalize_of_unmergeable hproper h]
  exact (perm_sorted c).length_eq

theorem length_normalize_le (c : Cover) : c.normalize.length ≤ c.length :=
  Nat.le_trans (merges_normalize c).length_le (List.length_filter_le _ c)

theorem normalize_eq_of_perm {c d : Cover} (hproper : c.Proper) (h : c.Unmergeable)
    (hcd : c.Perm d) : c.normalize = d.normalize := by
  rw [normalize_of_unmergeable hproper h,
    normalize_of_unmergeable (hproper.perm hcd) (h.perm hcd), sorted_eq_of_perm hcd]

/-- Normalizing keeps the points of any cover and reaches a normal form; a disjoint cover stays
disjoint, so that its normal form is canonical. -/
theorem normalize_exact (c : Cover) :
    (∀ x y, c.normalize.Contains x y ↔ c.Contains x y) ∧ (∀ r ∈ c.normalize, ¬ r.IsEmpty) ∧
      c.normalize.Pairwise (· ≤ ·) ∧
      (c.normalize.Pairwise fun r s => ¬ r.Mergeable s ∧ ¬ s.Mergeable r) ∧
      c.normalize.length ≤ c.length ∧
      (c.nonempty.Apart → c.normalize.Apart ∧ c.normalize.Canonical) := by
  have hmerges := merges_normalize c
  refine ⟨?_, proper_normalize c, pairwise_sorted _, ?_, ?_, ?_⟩
  · intro x y
    rw [hmerges.contains_iff, contains_nonempty]
  · refine (unmergeable_normalize c).imp ?_
    intro r s hrs
    exact ⟨hrs, fun hsr => hrs hsr.symm⟩
  · exact Nat.le_trans hmerges.length_le (List.length_filter_le _ c)
  · intro hapart
    have hcanonical := canonical_normalize hapart
    exact ⟨hcanonical.apart, hcanonical⟩

theorem normalize_exact_cascade :
    Apart (nonempty [⟨4, 6, 0, maxBound⟩, ⟨0, 3, 0, 5⟩, ⟨9, 8, 0, 0⟩, ⟨0, 3, 6, maxBound⟩]) ∧
      Canonical (normalize
        [⟨4, 6, 0, maxBound⟩, ⟨0, 3, 0, 5⟩, ⟨9, 8, 0, 0⟩, ⟨0, 3, 6, maxBound⟩]) := by
  have hapart : Apart
      (nonempty [⟨4, 6, 0, maxBound⟩, ⟨0, 3, 0, 5⟩, ⟨9, 8, 0, 0⟩, ⟨0, 3, 6, maxBound⟩]) := by
    show List.Pairwise _ _
    decide
  exact ⟨hapart, ((normalize_exact _).2.2.2.2.2 hapart).2⟩

/-!
## Fixed points

Normalizing a normal form looks at its members in another order than the one in which they were
merged.  It finds none to merge, and nothing to sort.
-/

theorem normalize_eq_self {c : Cover} (hproper : c.Proper) (hsorted : c.Pairwise (· ≤ ·))
    (h : c.Unmergeable) : c.normalize = c := by
  rw [normalize_of_unmergeable hproper h]
  exact List.mergeSort_of_pairwise (hsorted.imp fun hle => decide_eq_true hle)

theorem normalize_of_canonical {c : Cover} (h : c.Canonical) : c.normalize = c := by
  have hparts := canonical_iff.mp h
  exact normalize_eq_self hparts.1 hparts.2.1 hparts.2.2.2

theorem normalize_normalize (c : Cover) : c.normalize.normalize = c.normalize :=
  normalize_eq_self (proper_normalize c) (pairwise_sorted _) (unmergeable_normalize c)

/-- Exactly the covers in normal form stay as they are, so that to normalize twice is to normalize
once, whether or not the normal form is disjoint. -/
theorem normalize_fixed_points (c : Cover) :
    (c.normalize = c ↔
      (∀ r ∈ c, ¬ r.IsEmpty) ∧ c.Pairwise (· ≤ ·) ∧ c.Pairwise fun r s => ¬ r.Mergeable s) ∧
      c.normalize.normalize = c.normalize ∧ (c.Canonical → c.normalize = c) := by
  refine ⟨⟨?_, ?_⟩, normalize_normalize c, normalize_of_canonical⟩
  · intro h
    rw [← h]
    exact ⟨proper_normalize c, pairwise_sorted _, unmergeable_normalize c⟩
  · rintro ⟨hproper, hsorted, hunmergeable⟩
    exact normalize_eq_self hproper hsorted hunmergeable

theorem normalize_fixed_points_diagonal :
    Canonical [⟨minBound, 0, minBound, 0⟩, ⟨1, maxBound, 1, maxBound⟩] ∧
      normalize [⟨minBound, 0, minBound, 0⟩, ⟨1, maxBound, 1, maxBound⟩] =
        [⟨minBound, 0, minBound, 0⟩, ⟨1, maxBound, 1, maxBound⟩] := by
  have hcanonical : Canonical [⟨minBound, 0, minBound, 0⟩, ⟨1, maxBound, 1, maxBound⟩] := by
    decide
  exact ⟨hcanonical, (normalize_fixed_points _).2.2 hcanonical⟩

/-!
## Two members

Of two members it does not matter which comes first, whether or not they are mergeable.
-/

theorem normalize_pair {r s : Rect} (hr : ¬ r.IsEmpty) (hs : ¬ s.IsEmpty) (h : r.Mergeable s) :
    normalize [r, s] = [r.hull s] := by
  have hnonempty : nonempty [r, s] = [r, s] := by
    apply Proper.nonempty_eq
    simp [Proper, hr, hs]
  have hpass : mergePass [r, s] = [r.hull s] := by
    rw [mergePass, absorb_cons h, absorb_of_forall (by simp), mergePass]
  have hmerge : mergeAll [r, s] = ⟨[r.hull s], 2⟩ := by
    rw [mergeAll, hpass, if_pos (by simp), mergeAll_of_unmergeable (List.pairwise_singleton _ _)]
  simp only [normalize, normalization, hnonempty, hmerge]
  exact List.mergeSort_singleton _

theorem normalize_pair_comm (r s : Rect) : normalize [r, s] = normalize [s, r] := by
  by_cases hr : r.IsEmpty
  · simp [normalize, normalization, nonempty, List.filter_cons, hr]
  · by_cases hs : s.IsEmpty
    · simp [normalize, normalization, nonempty, List.filter_cons, hs]
    · by_cases hmergeable : r.Mergeable s
      · rw [normalize_pair hr hs hmergeable, normalize_pair hs hr hmergeable.symm, Rect.hull_comm]
      · refine normalize_eq_of_perm ?_ ?_ (List.Perm.swap _ _ _)
        · simp [Proper, hr, hs]
        · simp [Unmergeable, hmergeable]

theorem normalize_eq_of_perm_pair {c : Cover} {r s : Rect} (h : c.Perm [r, s]) :
    c.normalize = normalize [r, s] := by
  rcases List.perm_pair.mp h with rfl | rfl
  · rfl
  · exact normalize_pair_comm s r

end Cover

end Rectilinear
