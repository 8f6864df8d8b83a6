import Rectilinear.Proofs.Members
import Rectilinear.Proofs.Refinement

/-!
# Covers combined with themselves or with nothing

A cover combined with itself, with nothing or with the whole plane keeps its points.  Its rectangles
are kept apart in the same way each time: the edges have the same places, and the counts of both
operands change together.  So the lists are equal, and a canonical cover is a list that a sweep
gives back as it is.
-/

namespace Rectilinear

namespace Edge

section Places

variable {a b : Cover} {p : Edge}

theorem mem_places_ofOperands :
    p ∈ places (ofOperands a b) ↔ ∃ r, (r ∈ a ∨ r ∈ b) ∧ ∃ kind : Kind, kind.edgeOf .a r = p := by
  rw [mem_places]
  constructor
  · rintro ⟨e, he, rfl⟩
    rcases mem_ofOperands he with ⟨r, hr, hleft, hright, hrow⟩
    refine ⟨r, ?_, e.kind, ?_⟩
    · cases hoperand : e.operand <;> rw [hoperand] at hr
      · exact .inl hr
      · exact .inr hr
    · rw [Kind.edgeOf, place, ← hleft, ← hright, ← hrow]
  · rintro ⟨r, hr, kind, rfl⟩
    rcases hr with hr | hr
    · exact ⟨_, edge_mem_ofOperands (show r ∈ coverOf a b .a from hr) kind, rfl⟩
    · exact ⟨_, edge_mem_ofOperands (show r ∈ coverOf a b .b from hr) kind, rfl⟩

/-- Where the counts of the second operand follow those of the first, and the operation holds where
the first one covers, the second one might as well be missing. -/
theorem similar_alone (ha : a.Proper) (hb : b.Proper) {op : SetOp}
    (hcount : ∀ x y, running p a x = running p a y → running p b x = running p b y)
    (hholds : ∀ x, op.Holds (running p a x) (running p b x) ↔ 0 < running p a x) :
    Similar op .or (below p (ofOperands a b)) (below p (ofOperands a [])) := by
  have hinA : ∀ c x, active .a (below p (ofOperands a c)) x = running p a x :=
    fun c _ => active_below_eq_running (b := c) .a ha
  have hinB : ∀ x, active .b (below p (ofOperands a b)) x = running p b x :=
    fun _ => active_below_eq_running (a := a) .b hb
  have hnone : ∀ x, active .b (below p (ofOperands a [])) x = 0 :=
    fun _ => active_below_eq_running (a := a) (b := []) .b Cover.proper_nil
  constructor
  · intro x y
    constructor
    · intro heq operand
      cases operand with
      | a => rw [hinA, hinA, ← hinA b, ← hinA b, heq .a]
      | b => rw [hnone, hnone]
    · intro heq operand
      have hsame := heq .a
      rw [hinA, hinA] at hsame
      cases operand with
      | a => rw [hinA, hinA, hsame]
      | b => rw [hinB, hinB, hcount x y hsame]
  · intro x
    rw [hinA, hinA, hinB, hnone, hholds]
    simp [SetOp.Holds]

end Places

end Edge

/-!
## One cover, twice or alone

An operation that holds where both counts are the same positive number emits the rectangles of a
cover combined with itself, and one that holds where only the first operand covers emits those of
the cover combined with nothing.
-/

section Alone

variable {a b : Cover} {op : SetOp}

variable (ha : a.Proper) (hsa : a.Sweepable)

include ha hsa

theorem Sweep.emitted_eq_alone (coalesce : Bool) (hb : b.Proper) (hsb : b.Sweepable)
    (hsub : ∀ r ∈ b, r ∈ a)
    (hcount : ∀ p x y, Edge.running p a x = Edge.running p a y →
      Edge.running p b x = Edge.running p b y)
    (hholds : ∀ p x, op.Holds (Edge.running p a x) (Edge.running p b x) ↔
      0 < Edge.running p a x) :
    (through coalesce op (Edge.ofOperands a b)).emitted =
      (through coalesce .or (Edge.ofOperands a [])).emitted := by
  have hedges := Edge.schedule_ofOperands ha hb hsa hsb
  have hothers := Edge.schedule_ofOperands ha Cover.proper_nil hsa Cover.sweepable_nil
  refine emitted_eq_of_similar hedges hothers ?_ fun p =>
    Edge.similar_alone ha hb (hcount p) (hholds p)
  intro p
  have hmem : ∀ r, r ∈ a ∨ r ∈ b ↔ r ∈ a ∨ r ∈ ([] : Cover) := by
    intro r
    simp only [List.not_mem_nil, or_false, or_iff_left_iff_imp]
    exact hsub r
  simp only [Edge.mem_places_ofOperands, hmem]

theorem Cover.swept_self (coalesce : Bool) (hop : ∀ n, op.Holds n n ↔ 0 < n) :
    swept coalesce op a a = swept coalesce .or a [] := by
  rw [swept, swept, Sweep.emitted_eq_alone ha hsa coalesce ha hsa (fun _ hr => hr)
    (fun _ _ _ heq => heq) fun _ _ => hop _]

theorem Cover.swept_nil (coalesce : Bool) (hop : ∀ n, op.Holds n 0 ↔ 0 < n) :
    swept coalesce op a [] = swept coalesce .or a [] := by
  rw [swept, swept, Sweep.emitted_eq_alone ha hsa coalesce proper_nil sweepable_nil (by simp)
    (fun _ _ _ _ => rfl) fun _ _ => hop _]

end Alone

/-!
## A single rectangle

The closed forms give a rectangle back as it is.  So does a sweep: all edges are those of the
rectangle itself, and no seam is within them.
-/

section Single

variable {r : Rect} (hr : r.InRange) (hproper : ¬ r.IsEmpty)

include hr hproper

theorem Sweep.mem_emitted_singleton (coalesce : Bool) :
    r ∈ (through coalesce .or (Edge.ofOperands [r] [])).emitted := by
  have hsides := Rect.not_isEmpty_iff.mp hproper
  have ha := Cover.proper_singleton hproper
  have hschedule := Edge.schedule_ofOperands ha Cover.proper_nil (Cover.sweepable_singleton hr)
    Cover.sweepable_nil
  have hmem := Edge.edge_mem_ofOperands
    (show r ∈ Edge.coverOf [r] [] .a from List.mem_singleton_self r) .stop
  have hholds : SetOp.or.Holds 1 0 := by decide
  cases coalesce with
  | true =>
      exact mem_emitted_alone hschedule ha (List.pairwise_singleton _ _) hholds
        (List.mem_singleton_self r)
  | false =>
      have hstate := Edge.inState_of_runs_alone hschedule ha (List.pairwise_singleton _ _)
        (List.mem_singleton_self r) ⟨Int.le_refl _, hsides.1⟩ (Edge.runs_stop hproper .a)
      have hwhole : ∀ x, r.left ≤ x → x < r.right → ¬ Edge.Seam false .or
          (Edge.below (Edge.Kind.stop.edgeOf .a r) (Edge.ofOperands [r] [])) x := by
        rintro x hx hx' ⟨e, he, hend⟩
        rcases Edge.mem_ofOperands (Edge.mem_below.mp he).1 with ⟨s, hs, hleft, hright, _⟩
        -- no edge ends within `r`
        have hsame : s = r := by
          cases hoperand : e.operand <;> rw [hoperand] at hs
          · exact List.mem_singleton.mp hs
          · cases hs
        rw [hsame] at hleft hright
        omega
      have hreleased := mem_released_of_seams (Edge.schedule_below hschedule _)
        (hschedule.onLine _ hmem) (Int.le_refl _) hsides.1 (Int.le_refl _) hstate hholds
        (Edge.lt_row_stop hsides.2) hwhole (.inl rfl) (.inl rfl)
      rw [Edge.row_stop_sub_one] at hreleased
      exact mem_emitted_of_mem_released hschedule hmem hreleased

theorem Cover.swept_singleton (coalesce : Bool) : swept coalesce .or [r] [] = [r] := by
  have ha := proper_singleton hproper
  apply Combination.swept_eq_of_mem_emitted (sweepable_singleton hr) sweepable_nil ha proper_nil
    (canonical_singleton hproper)
  · refine (partitions_singleton hr hproper).congr ?_
    intro x y
    simp only [SetOp.Holds, coverage_pos_iff, contains_cons, contains_nil, or_false]
  · intro s hs
    rw [List.mem_singleton.mp hs]
    exact Sweep.mem_emitted_singleton hr hproper coalesce

theorem ClosedForm.cover_closedForm_self {op : SetOp} (hop : op = .and ∨ op = .or) :
    (op.closedForm .exact r r).cover = [r] := by
  have hinside := r.inside_refl
  have hsides := Rect.not_isEmpty_iff.mp hproper
  have hoverlap : Rect.Overlap r r :=
    ⟨⟨hr, hproper⟩, ⟨hr, hproper⟩, hsides.1, hsides.1, hsides.2, hsides.2⟩
  have hnot : ¬ (r.IsEmpty ∨ r.IsEmpty ∨ ¬ r.Intersects r) := by
    simp [hproper, hoverlap.intersects]
  rcases hop with rfl | rfl
  · simp only [SetOp.closedForm, inter_eq, hoverlap.clipWith_eq, Int.max_self, Int.min_self,
      if_neg hproper, cover]
  · simp only [SetOp.closedForm, union_exact, if_neg hnot, if_pos hinside, cover]

end Single

/-!
## Outcomes

Either way the outcome is what sweeping the cover alone gives, also on the fast path.
-/

section Outcome

variable {a : Cover} (ha : a.Proper) (hsa : a.Sweepable) (arith : Arith) (settings : Settings)
  {op : SetOp}

include ha hsa

theorem Combination.outcome_self (hop : op = .and ∨ op = .or) :
    (ofNonempty arith settings op a a).outcome =
      .ok (Cover.swept settings.coalesceBands .or a []) := by
  by_cases hfast : settings.pairwiseFastPath = true ∧ a.length = 1 ∧ a.length = 1
  · rcases hfast with ⟨hfast, hlength, _⟩
    rcases List.length_eq_one_iff.mp hlength with ⟨r, rfl⟩
    have hr : r.InRange := hsa.inRange r (by simp)
    have hproper : ¬ r.IsEmpty := ha r (by simp)
    rw [outcome_ofNonempty_singletons arith op hfast hr hr,
      ClosedForm.cover_closedForm_self hr hproper hop, Cover.swept_singleton hr hproper]
  · have hholds : ∀ n, op.Holds n n ↔ 0 < n := by
      rcases hop with rfl | rfl <;> simp [SetOp.Holds]
    rw [outcome_ofNonempty hsa hsa ha ha arith settings op hfast,
      Cover.swept_self ha hsa settings.coalesceBands hholds]

theorem Combination.outcome_nil (hop : op ≠ .and) :
    (ofNonempty arith settings op a []).outcome =
      .ok (Cover.swept settings.coalesceBands .or a []) := by
  have hholds : ∀ n, op.Holds n 0 ↔ 0 < n := by
    cases op <;> simp [SetOp.Holds] at hop ⊢
  rw [outcome_ofNonempty hsa Cover.sweepable_nil ha Cover.proper_nil arith settings op (by simp),
    Cover.swept_nil ha hsa settings.coalesceBands hholds]

end Outcome

namespace Cover

/-- All ways to combine a cover with itself or with nothing give one list. -/
theorem combine_self_and_nil (settings : Settings) {a : Cover} (ha : a.Sweepable) :
    ∃ c, combine settings .and a a = .ok c ∧ combine settings .or a a = .ok c ∧
      combine settings .or a [] = .ok c ∧ combine settings .or [] a = .ok c ∧
      combine settings .xor a [] = .ok c ∧ combine settings .xor [] a = .ok c ∧
      combine settings .diff a [] = .ok c := by
  have hproper := proper_nonempty a
  have hsa := ha.nonempty
  have hcomm : ∀ op : SetOp, op ≠ .diff →
      (Combination.ofNonempty .word settings op [] a.nonempty).outcome =
        (Combination.ofNonempty .word settings op a.nonempty []).outcome := fun op hop =>
    Combination.outcome_comm proper_nil hproper sweepable_nil hsa hop .word settings
  refine ⟨swept settings.coalesceBands .or a.nonempty [], ?_, ?_, ?_, ?_, ?_, ?_, ?_⟩
  · exact Combination.outcome_self hproper hsa .word settings (.inl rfl)
  · exact Combination.outcome_self hproper hsa .word settings (.inr rfl)
  · exact Combination.outcome_nil hproper hsa .word settings (by decide)
  · exact (hcomm .or (by decide)).trans
      (Combination.outcome_nil hproper hsa .word settings (by decide))
  · exact Combination.outcome_nil hproper hsa .word settings (by decide)
  · exact (hcomm .xor (by decide)).trans
      (Combination.outcome_nil hproper hsa .word settings (by decide))
  · exact Combination.outcome_nil hproper hsa .word settings (by decide)

theorem combine_self_and_nil_unsorted :
    ∃ c, combine { coalesceBands := false } .and
          [⟨2, 6, 2, maxBound⟩, ⟨0, 4, 0, 4⟩, ⟨3, 1, 0, 0⟩, ⟨0, 4, 0, 4⟩, ⟨5, 9, 0, 1⟩]
          [⟨2, 6, 2, maxBound⟩, ⟨0, 4, 0, 4⟩, ⟨3, 1, 0, 0⟩, ⟨0, 4, 0, 4⟩, ⟨5, 9, 0, 1⟩] = .ok c ∧
        combine { coalesceBands := false } .xor []
          [⟨2, 6, 2, maxBound⟩, ⟨0, 4, 0, 4⟩, ⟨3, 1, 0, 0⟩, ⟨0, 4, 0, 4⟩, ⟨5, 9, 0, 1⟩] = .ok c ∧
        combine { coalesceBands := false } .diff
          [⟨2, 6, 2, maxBound⟩, ⟨0, 4, 0, 4⟩, ⟨3, 1, 0, 0⟩, ⟨0, 4, 0, 4⟩, ⟨5, 9, 0, 1⟩] [] =
            .ok c := by
  have hsweepable : Sweepable
      [⟨2, 6, 2, maxBound⟩, ⟨0, 4, 0, 4⟩, ⟨3, 1, 0, 0⟩, ⟨0, 4, 0, 4⟩, ⟨5, 9, 0, 1⟩] :=
    sweepable_of_length (by decide) (by decide)
  rcases combine_self_and_nil { coalesceBands := false } hsweepable with
    ⟨c, hself, _, _, _, _, hxor, hdiff⟩
  exact ⟨c, hself, hxor, hdiff⟩

/-!
## Canonical covers

A sweep that joins its bands emits every member of a canonical cover in one piece, so that there is
nothing left to merge.
-/

section Canonical

variable {c : Cover} (hc : c.Canonical) (hrange : c.InRange)

include hc hrange

theorem Canonical.partitions : c.Partitions c.Contains :=
  ⟨hc.proper, hrange, hc.apart, fun _ _ => Iff.rfl⟩

theorem swept_nil_of_canonical : swept true .or c [] = c := by
  have hsweepable := (hc.partitions hrange).sweepable
  have hschedule := Edge.schedule_ofOperands hc.proper proper_nil hsweepable sweepable_nil
  apply Combination.swept_eq_of_mem_emitted hsweepable sweepable_nil hc.proper proper_nil hc
  · refine (hc.partitions hrange).congr ?_
    intro x y
    simp only [SetOp.Holds, coverage_pos_iff, contains_nil, or_false]
  · intro r hr
    exact Sweep.mem_emitted_alone hschedule hc.proper hc.apart (by decide) hr

theorem swept_plane_of_canonical : swept true .and c [Rect.plane] = c := by
  have hsweepable := (hc.partitions hrange).sweepable
  have hinside : ∀ r ∈ c, r.Inside Rect.plane := by
    intro r hr
    have hbounds := hrange r hr
    exact ⟨hbounds.1.1, hbounds.2.1.2, hbounds.2.2.1.1, hbounds.2.2.2.2⟩
  apply Combination.swept_eq_of_mem_emitted hsweepable sweepable_plane hc.proper proper_plane hc
  · refine (hc.partitions hrange).congr ?_
    intro x y
    simp only [SetOp.Holds, coverage_pos_iff, contains_cons, contains_nil, or_false,
      iff_self_and]
    rintro ⟨r, hr, hxy⟩
    exact (hinside r hr).contains hxy
  · intro r hr
    exact Sweep.mem_emitted_inside
      (Edge.schedule_ofOperands hc.proper proper_plane hsweepable sweepable_plane) hc.proper
      (proper_plane _ (List.mem_singleton_self _)) hc.apart hc.unmergeable hinside (by decide) hr

theorem combine_nil_of_canonical (fast : Bool) :
    combine { coalesceBands := true, pairwiseFastPath := fast } .or c [] = .ok c := by
  have hsweepable := (hc.partitions hrange).sweepable
  rw [combine, Combination.ofOperands, hc.proper.nonempty_eq, proper_nil.nonempty_eq,
    Combination.outcome_nil hc.proper hsweepable .word _ (by decide),
    swept_nil_of_canonical hc hrange]

theorem combine_plane_of_canonical (fast : Bool) :
    combine { coalesceBands := true, pairwiseFastPath := fast } .and c [Rect.plane] = .ok c := by
  have hsweepable := (hc.partitions hrange).sweepable
  have hswept := swept_plane_of_canonical hc hrange
  rw [combine, Combination.ofOperands, hc.proper.nonempty_eq, proper_plane.nonempty_eq]
  by_cases hfast : fast = true ∧ c.length = 1 ∧ [Rect.plane].length = 1
  · rcases hfast with ⟨hfast, hlength, _⟩
    rcases List.length_eq_one_iff.mp hlength with ⟨r, rfl⟩
    have hr : r.InRange ∧ ¬ r.IsEmpty := ⟨hrange r (by simp), hc.proper r (by simp)⟩
    have hs : Rect.plane.InRange ∧ ¬ Rect.plane.IsEmpty := by decide
    rw [Combination.outcome_ofNonempty_singletons .word .and hfast hr.1 hs.1, ← swept_and hr hs,
      hswept]
  · rw [Combination.outcome_ofNonempty hsweepable sweepable_plane hc.proper proper_plane .word _
      .and hfast, hswept]

end Canonical

/-- A canonical cover is what a sweep makes of it, so that to sweep a cover twice is to sweep it
once. -/
theorem combine_fixed_of_canonical (fast : Bool) :
    (∀ c : Cover, c.Canonical → c.InRange →
      combine { coalesceBands := true, pairwiseFastPath := fast } .or c [] = .ok c ∧
        combine { coalesceBands := true, pairwiseFastPath := fast } .and c [Rect.plane] = .ok c) ∧
      ∀ a : Cover, a.Sweepable →
        ∃ c, combine { coalesceBands := true, pairwiseFastPath := fast } .or a [] = .ok c ∧
          combine { coalesceBands := true, pairwiseFastPath := fast } .or c [] = .ok c := by
  constructor
  · intro c hc hrange
    exact ⟨combine_nil_of_canonical hc hrange fast, combine_plane_of_canonical hc hrange fast⟩
  · intro a ha
    rcases Combination.exact_ofOperands ha sweepable_nil .word
        { coalesceBands := true, pairwiseFastPath := fast } .or with
      ⟨c, houtcome, hcanonical, hpartitions⟩
    exact ⟨c, houtcome, combine_nil_of_canonical hcanonical hpartitions.inRange fast⟩

theorem combine_fixed_of_canonical_touching :
    Canonical [⟨2, 3, minBound, maxBound⟩, ⟨minBound, 1, 6, maxBound⟩, ⟨4, 6, 7, maxBound⟩] ∧
      (combine { coalesceBands := true, pairwiseFastPath := true } .or
            [⟨2, 3, minBound, maxBound⟩, ⟨minBound, 1, 6, maxBound⟩, ⟨4, 6, 7, maxBound⟩] [] =
          .ok [⟨2, 3, minBound, maxBound⟩, ⟨minBound, 1, 6, maxBound⟩, ⟨4, 6, 7, maxBound⟩] ∧
        combine { coalesceBands := true, pairwiseFastPath := true } .and
            [⟨2, 3, minBound, maxBound⟩, ⟨minBound, 1, 6, maxBound⟩, ⟨4, 6, 7, maxBound⟩]
            [Rect.plane] =
          .ok [⟨2, 3, minBound, maxBound⟩, ⟨minBound, 1, 6, maxBound⟩, ⟨4, 6, 7, maxBound⟩]) ∧
      ∃ c, combine { coalesceBands := true, pairwiseFastPath := true } .or
            [⟨2, 6, 2, maxBound⟩, ⟨0, 4, 0, 4⟩, ⟨0, 4, 0, 4⟩] [] = .ok c ∧
          combine { coalesceBands := true, pairwiseFastPath := true } .or c [] = .ok c := by
  have hcanonical : Canonical
      [⟨2, 3, minBound, maxBound⟩, ⟨minBound, 1, 6, maxBound⟩, ⟨4, 6, 7, maxBound⟩] := by
    decide
  exact ⟨hcanonical, (combine_fixed_of_canonical true).1 _ hcanonical (by decide),
    (combine_fixed_of_canonical true).2 _ (sweepable_of_length (by decide) (by decide))⟩

end Cover

end Rectilinear
