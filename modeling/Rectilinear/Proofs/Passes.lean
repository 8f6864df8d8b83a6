import Mathlib.Logic.Relation
import Rectilinear.Combine
import Rectilinear.Proofs.NormalForm

/-!
# The passes of normalizing

Normalizing scans the members with two indices: the outer one stands at the member that takes in
others, the inner one at the member that is tried next.  A merge takes a member out of the list and
sets the inner index back, and passes are repeated until one merges nothing.  Nevertheless the scan
ends, with the normal form: an inner loop absorbs, an outer loop makes a pass, and a pass that is
not the last one leaves fewer members.  Hence there are at most as many passes as members that get
lost, and one more.
-/

namespace Rectilinear

namespace Cover

/-- A scan of the members: the two indices, whether the pass has merged anything, and the number of
passes begun. -/
structure Scan where
  members : Cover
  outer : Nat
  inner : Nat
  changed : Bool
  passes : Nat
  deriving DecidableEq, Repr

namespace Scan

def start (c : Cover) : Scan :=
  ⟨c.nonempty, 0, 1, false, 1⟩

def next (scan : Scan) : Option Scan :=
  match scan.members[scan.outer]? with
  | some r =>
      match scan.members[scan.inner]? with
      | some s =>
          if r.Mergeable s then
            some
              { scan with
                members := (scan.members.eraseIdx scan.inner).set scan.outer (r.hull s)
                inner := scan.outer + 1
                changed := true }
          else
            some { scan with inner := scan.inner + 1 }
      | none => some { scan with outer := scan.outer + 1, inner := scan.outer + 2 }
  | none =>
      if scan.changed then
        some ⟨scan.members.nonempty, 0, 1, false, scan.passes + 1⟩
      else
        none

/-- The second scan follows from the first after some turns. -/
def Leads : Scan → Scan → Prop :=
  Relation.ReflTransGen fun scan other => scan.next = some other

def comparing (front : Cover) (r : Rect) (passed rest : Cover) (changed : Bool) (passes : Nat) :
    Scan :=
  ⟨front ++ r :: (passed ++ rest), front.length, front.length + 1 + passed.length, changed, passes⟩

def passing (front rest : Cover) (changed : Bool) (passes : Nat) : Scan :=
  ⟨front ++ rest, front.length, front.length + 1, changed, passes⟩

/-!
## The inner loop

The outer index stands between the members that have taken in what they can and the rest, and the
inner one between those that have been compared with the outer member and those that have not.  What
is not mergeable is passed, and what is mergeable starts the inner loop anew; in the end the member
has absorbed what it can.
-/

section Inner

variable (front : Cover) {r s : Rect} (passed rest : Cover) (changed : Bool) (passes : Nat)

theorem getElem?_outer : (front ++ r :: rest)[front.length]? = some r := by
  simp

theorem getElem?_inner :
    (front ++ r :: (passed ++ s :: rest))[front.length + 1 + passed.length]? = some s := by
  simp [Nat.add_assoc, Nat.add_comm 1]

theorem getElem?_inner_nil :
    (front ++ r :: passed)[front.length + 1 + passed.length]? = none := by
  simp
  omega

theorem eraseIdx_inner_set_outer (t : Rect) :
    ((front ++ r :: (passed ++ s :: rest)).eraseIdx (front.length + 1 + passed.length)).set
        front.length t = front ++ t :: (passed ++ rest) := by
  simp [List.eraseIdx_append_of_length_le, Nat.add_assoc, Nat.add_comm 1]

theorem next_comparing_of_not_mergeable (h : ¬ r.Mergeable s) :
    (comparing front r passed (s :: rest) changed passes).next =
      some (comparing front r (passed ++ [s]) rest changed passes) := by
  simp only [next, comparing, getElem?_outer, getElem?_inner, if_neg h]
  simp [Nat.add_assoc]

theorem next_comparing_of_mergeable (h : r.Mergeable s) :
    (comparing front r passed (s :: rest) changed passes).next =
      some (passing front (r.hull s :: (passed ++ rest)) true passes) := by
  simp only [next, comparing, passing, getElem?_outer, getElem?_inner, if_pos h,
    eraseIdx_inner_set_outer]

theorem next_comparing_nil :
    (comparing front r passed [] changed passes).next =
      some (passing (front ++ [r]) passed changed passes) := by
  simp only [next, comparing, passing, getElem?_outer, getElem?_inner_nil, List.append_assoc,
    List.singleton_append, List.append_nil, List.length_append, List.length_singleton]

theorem passing_cons :
    passing front (r :: rest) changed passes = comparing front r [] rest changed passes :=
  rfl

theorem leads_comparing {more : Cover} (h : ∀ s ∈ more, ¬ r.Mergeable s) :
    (comparing front r passed (more ++ rest) changed passes).Leads
      (comparing front r (passed ++ more) rest changed passes) := by
  induction more generalizing passed with
  | nil =>
      rw [List.nil_append, List.append_nil]
      exact Relation.ReflTransGen.refl
  | cons s more ih =>
      have hstep := next_comparing_of_not_mergeable front passed (more ++ rest) changed passes
        (h s (by simp))
      have hrest := ih (passed ++ [s]) fun t ht => h t (by simp [ht])
      rw [List.append_assoc, List.singleton_append] at hrest
      exact hrest.head hstep

end Inner

theorem leads_absorb (front : Cover) (r : Rect) (c : Cover) (changed : Bool) (passes : Nat) :
    (passing front (r :: c) changed passes).Leads
      (passing (front ++ [(absorb r c).1]) (absorb r c).2
        (changed || decide ((absorb r c).2.length < c.length)) passes) := by
  fun_induction absorb r c generalizing changed with
  | case1 r c htake =>
      have hpassed := leads_comparing front [] [] changed passes (takeMergeable_eq_none htake)
      rw [List.append_nil, List.nil_append, ← passing_cons] at hpassed
      simp only [Nat.lt_irrefl, decide_false, Bool.or_false]
      exact hpassed.tail (next_comparing_nil front c changed passes)
  | case2 r c s others htake ih =>
      have habsorb := length_absorb_le (r.hull s) others
      have hshort := length_of_takeMergeable htake
      have hlost : (absorb (r.hull s) others).2.length < c.length := by omega
      rcases exists_of_takeMergeable htake with ⟨passed, rest, rfl, rfl, hrs, hpassed⟩
      -- the inner index passes what does not fit, a merge sets it back, and the flag stays set
      have hskip := leads_comparing front [] (s :: rest) changed passes hpassed
      rw [List.nil_append, ← passing_cons] at hskip
      have hmerge := hskip.tail (next_comparing_of_mergeable front passed rest changed passes hrs)
      have hrest := ih true
      simp only [Bool.true_or] at hrest
      simp only [hlost, decide_true, Bool.or_true]
      exact hmerge.trans hrest

/-!
## The outer loop and the passes

A turn of the outer loop that finds no further member ends the pass, and the passes end with the
normal form, having counted as many as it tells.
-/

theorem leads_mergePass (front c : Cover) (changed : Bool) (passes : Nat) :
    (passing front c changed passes).Leads
      (passing (front ++ mergePass c) []
        (changed || decide ((mergePass c).length < c.length)) passes) := by
  fun_induction mergePass c generalizing front changed with
  | case1 =>
      simp only [List.append_nil, List.length_nil, Nat.lt_irrefl, decide_false, Bool.or_false]
      exact Relation.ReflTransGen.refl
  | case2 r rest absorbed ih =>
      have habsorb : absorbed.2.length ≤ rest.length := length_absorb_le r rest
      have hpass := length_mergePass_le absorbed.2
      have hfirst := leads_absorb front r rest changed passes
      have hrest := ih (front ++ [absorbed.1])
        (changed || decide (absorbed.2.length < rest.length))
      -- a pass has lost a member if its first member or one of the later ones took any in
      have hlost : (decide (absorbed.2.length < rest.length) ||
          decide ((mergePass absorbed.2).length < absorbed.2.length)) =
          decide ((absorbed.1 :: mergePass absorbed.2).length < (r :: rest).length) := by
        rw [← Bool.decide_or]
        apply decide_eq_decide.mpr
        simp only [List.length_cons]
        omega
      rw [Bool.or_assoc, hlost, List.append_assoc, List.singleton_append] at hrest
      exact hfirst.trans hrest

theorem next_passing_nil (c : Cover) (changed : Bool) (passes : Nat) :
    (passing c [] changed passes).next =
      if changed then some (passing [] c.nonempty false (passes + 1)) else none := by
  simp [next, passing]

theorem leads_mergeAll {c : Cover} (h : c.Proper) (passes : Nat) :
    ∃ last, (passing [] c false passes).Leads last ∧ last.next = none ∧
      last.members = (mergeAll c).cover ∧ last.passes + 1 = passes + (mergeAll c).passes := by
  fun_induction mergeAll c generalizing passes with
  | case1 c hlost rest ih =>
      have hpass := leads_mergePass [] c false passes
      have hproper : (mergePass c).Proper := (merges_mergePass c).proper h
      rcases ih hproper (passes + 1) with ⟨last, hlast, hended, hmembers, hpasses⟩
      have hagain := next_passing_nil (mergePass c) true passes
      rw [if_pos rfl, hproper.nonempty_eq] at hagain
      simp only [List.nil_append, hlost, decide_true, Bool.or_true] at hpass
      refine ⟨last, (hpass.tail hagain).trans hlast, hended, hmembers, ?_⟩
      rw [hpasses, Nat.add_assoc, Nat.add_comm 1]
  | case2 c hidle =>
      have hpass := leads_mergePass [] c false passes
      have hlength := length_mergePass_le c
      -- the last pass is idle, so that it ends with the members it began with
      have hsame : mergePass c = c :=
        mergePass_of_unmergeable (unmergeable_of_length_mergePass (by omega))
      simp only [hsame, List.nil_append, Nat.lt_irrefl, decide_false, Bool.or_false] at hpass
      exact ⟨_, hpass, next_passing_nil c false passes, List.append_nil c, rfl⟩

end Scan

/-!
## Counting passes

All passes but the last lose members, and there is one pass exactly if there is nothing to merge.
-/

theorem passes_mergeAll_le (c : Cover) :
    1 ≤ (mergeAll c).passes ∧ (mergeAll c).passes + (mergeAll c).cover.length ≤ c.length + 1 := by
  fun_induction mergeAll c with
  | case1 c hlost rest ih =>
      have hrest : 1 ≤ rest.passes ∧
          rest.passes + rest.cover.length ≤ (mergePass c).length + 1 := ih
      simp only
      omega
  | case2 c _ =>
      simp only
      omega

theorem passes_mergeAll_eq_one_iff (c : Cover) : (mergeAll c).passes = 1 ↔ c.Unmergeable := by
  constructor
  · intro h
    have hpass := length_mergePass_le c
    apply unmergeable_of_length_mergePass
    by_contra hne
    have hmore := (passes_mergeAll_le (mergePass c)).1
    rw [mergeAll, if_pos (by omega)] at h
    simp only at h
    omega
  · intro h
    rw [mergeAll_of_unmergeable h]

/-- The scan of the members of a cover ends with its normal form.  It makes at least one pass, at
most one more than members get lost, and a single one exactly if no two members are mergeable. -/
theorem scan_ends_within_passes (c : Cover) :
    ∃ last, (Scan.start c).Leads last ∧ last.next = none ∧ last.members.sorted = c.normalize ∧
      c.normalization.event = .normalized last.passes c.normalize.length ∧
      c.normalize.length ≤ c.nonempty.length ∧ 1 ≤ last.passes ∧
      last.passes ≤ 1 + (c.nonempty.length - c.normalize.length) ∧
      (last.passes = 1 ↔ c.nonempty.Pairwise fun r s => ¬ r.Mergeable s) := by
  rcases Scan.leads_mergeAll (proper_nonempty c) 1 with ⟨last, hlast, hended, hmembers, hpasses⟩
  have hcounted : last.passes = (mergeAll c.nonempty).passes := by omega
  have hbounds := passes_mergeAll_le c.nonempty
  have hlength : c.normalize.length = (mergeAll c.nonempty).cover.length :=
    (perm_sorted _).length_eq
  have hshort : c.normalize.length ≤ c.nonempty.length := (merges_normalize c).length_le
  refine ⟨last, hlast, hended, ?_, ?_, hshort, ?_, ?_, ?_⟩
  · rw [hmembers]
    rfl
  · rw [hcounted]
    rfl
  · omega
  · omega
  · rw [hcounted]
    exact passes_mergeAll_eq_one_iff c.nonempty

/-- The passes can be as many as the members that get lost allow. -/
example :
    normalization [⟨4, 6, 0, maxBound⟩, ⟨0, 3, 0, 5⟩, ⟨9, 8, 0, 0⟩, ⟨0, 3, 6, maxBound⟩] =
      ⟨[⟨0, 6, 0, maxBound⟩], 3⟩ := by cbv

end Cover

end Rectilinear
