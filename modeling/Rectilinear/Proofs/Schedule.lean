import Mathlib.Data.List.Induction
import Rectilinear.Proofs.Apart
import Rectilinear.Sweep.Run

/-!
# Schedules of edges

A sweep keeps counts for every column.  They are determined by the edges applied so far: the rows of
the edges rise, no rectangle stops before it starts, and none of the counts leaves the range of a
word.  A list of edges with these properties is a schedule, and the edges of two covers that cover
no point too often are one.
-/

namespace Rectilinear

namespace Edge

def Spans (e : Edge) (x : Int) : Prop :=
  e.left ≤ x ∧ x ≤ e.right

instance (e : Edge) (x : Int) : Decidable (e.Spans x) :=
  inferInstanceAs (Decidable (_ ∧ _))

def count (kind : Kind) (operand : Operand) (edges : List Edge) (x : Int) : Nat :=
  edges.countP fun e => e.kind = kind ∧ e.operand = operand ∧ e.Spans x

def active (operand : Operand) (edges : List Edge) (x : Int) : Nat :=
  count .start operand edges x - count .stop operand edges x

def upTo (row : Int) (edges : List Edge) : List Edge :=
  edges.filter fun e => e.row ≤ row

/-- The number of members of an operand that cover a point, read off the edges. -/
def depth (operand : Operand) (edges : List Edge) (x y : Int) : Nat :=
  active operand (upTo y edges) x

/-- The row of the last edge that spans a column. -/
def lastRow (edges : List Edge) (x : Int) : Int :=
  edges.foldl (fun row e => if e.Spans x then e.row else row) Band.line.openRow

def Kind.adjust : Kind → Nat → Nat
  | start, n => n + 1
  | stop, n => n - 1

def Kind.rowOf : Kind → Rect → Int
  | start, r => r.bottom
  | stop, r => r.top + 1

def Kind.edgeOf (kind : Kind) (operand : Operand) (r : Rect) : Edge :=
  ⟨kind.rowOf r, kind, r.left, r.right, operand⟩

/-!
## One edge more

Counts grow with the edges.  On a schedule no member stops before it starts, so that a further edge
changes what is active by one, in the columns that it spans.
-/

theorem count_append (kind : Kind) (operand : Operand) (edges more : List Edge) (x : Int) :
    count kind operand (edges ++ more) x =
      count kind operand edges x + count kind operand more x :=
  List.countP_append

theorem count_singleton (kind : Kind) (operand : Operand) (e : Edge) (x : Int) :
    count kind operand [e] x =
      if e.kind = kind ∧ e.operand = operand ∧ e.Spans x then 1 else 0 := by
  simp [count, List.countP_cons]

theorem count_le_of_sublist {edges more : List Edge} (h : edges.Sublist more) (kind : Kind)
    (operand : Operand) (x : Int) : count kind operand edges x ≤ count kind operand more x :=
  h.countP_le

theorem lastRow_append_singleton (edges : List Edge) (e : Edge) (x : Int) :
    lastRow (edges ++ [e]) x = if e.Spans x then e.row else lastRow edges x := by
  simp [lastRow, List.foldl_append]

theorem lastRow_of_forall_not_spans {edges : List Edge} {x : Int}
    (h : ∀ e ∈ edges, ¬ e.Spans x) : lastRow edges x = Band.line.openRow := by
  induction edges using List.reverseRecOn with
  | nil => rfl
  | append_singleton edges e ih =>
      rw [lastRow_append_singleton, if_neg (h e (by simp))]
      exact ih fun f hf => h f (by simp [hf])

theorem exists_lastRow {edges : List Edge} {x : Int} (h : ∃ e ∈ edges, e.Spans x) :
    ∃ e ∈ edges, e.Spans x ∧ e.row = lastRow edges x := by
  induction edges using List.reverseRecOn with
  | nil => simp at h
  | append_singleton edges e ih =>
      rw [lastRow_append_singleton]
      by_cases hspans : e.Spans x
      · exact ⟨e, by simp, hspans, by rw [if_pos hspans]⟩
      · rw [if_neg hspans]
        rcases h with ⟨f, hf, hfspans⟩
        rcases List.mem_append.mp hf with hf | hf
        · rcases ih ⟨f, hf, hfspans⟩ with ⟨g, hg, hgspans, hgrow⟩
          exact ⟨g, by simp [hg], hgspans, hgrow⟩
        · rw [List.mem_singleton.mp hf] at hfspans
          exact absurd hfspans hspans

theorem exists_spans_of_active_pos {operand : Operand} {edges : List Edge} {x : Int}
    (h : 0 < active operand edges x) : ∃ e ∈ edges, e.Spans x := by
  have hcount : 0 < count .start operand edges x := by
    rw [active] at h
    omega
  rcases List.countP_pos_iff.mp hcount with ⟨e, he, hspans⟩
  exact ⟨e, he, (of_decide_eq_true hspans).2.2⟩

structure OnLine (e : Edge) : Prop where
  left_le_right : e.left ≤ e.right
  left_ge : minBound ≤ e.left
  right_le : e.right ≤ maxBound

/-- What allows an edge to follow a list of edges. -/
structure Admits (edges : List Edge) (e : Edge) : Prop extends OnLine e where
  row_ge : minBound ≤ e.row
  row_le : e.row ≤ maxBound + 1
  ordered : ∀ f ∈ edges, f.Le e
  start : e.kind = .start → ∀ x, e.Spans x → active e.operand edges x < Arith.maxCount
  stop : e.kind = .stop → ∀ x, e.Spans x →
    count .stop e.operand edges x < count .start e.operand edges x

inductive Schedule : List Edge → Prop where
  | nil : Schedule []
  | snoc {edges : List Edge} {e : Edge} :
      Schedule edges → Admits edges e → Schedule (edges ++ [e])

namespace Schedule

theorem onLine {edges : List Edge} (h : Schedule edges) : ∀ e ∈ edges, e.OnLine := by
  induction h with
  | nil => simp
  | @snoc edges e _ hadmits ih =>
      intro f hf
      rcases List.mem_append.mp hf with hf | hf
      · exact ih f hf
      · rw [List.mem_singleton.mp hf]
        exact hadmits.toOnLine

theorem pairwise {edges : List Edge} (h : Schedule edges) : edges.Pairwise Le := by
  induction h with
  | nil => exact List.Pairwise.nil
  | snoc _ hadmits ih =>
      refine List.pairwise_append.mpr ⟨ih, List.pairwise_singleton _ _, ?_⟩
      intro f hf g hg
      rw [List.mem_singleton.mp hg]
      exact hadmits.ordered f hf

theorem row_bounds {edges : List Edge} (h : Schedule edges) :
    ∀ e ∈ edges, minBound ≤ e.row ∧ e.row ≤ maxBound + 1 := by
  induction h with
  | nil => simp
  | @snoc edges e _ hadmits ih =>
      intro f hf
      rcases List.mem_append.mp hf with hf | hf
      · exact ih f hf
      · rw [List.mem_singleton.mp hf]
        exact ⟨hadmits.row_ge, hadmits.row_le⟩

theorem count_stop_le {edges : List Edge} (h : Schedule edges) (operand : Operand) (x : Int) :
    count .stop operand edges x ≤ count .start operand edges x := by
  induction h with
  | nil => exact Nat.le_refl _
  | @snoc edges e _ hadmits ih =>
      rw [count_append, count_append, count_singleton, count_singleton]
      by_cases hstop : e.kind = .stop ∧ e.operand = operand ∧ e.Spans x
      · rcases hstop with ⟨hkind, rfl, hspans⟩
        have hlt := hadmits.stop hkind x hspans
        simp only [hkind, hspans]
        simp
        omega
      · rw [if_neg hstop]
        omega

theorem active_append_singleton {edges : List Edge} {e : Edge} (h : Schedule edges)
    (operand : Operand) (x : Int) :
    active operand (edges ++ [e]) x =
      if e.operand = operand ∧ e.Spans x then e.kind.adjust (active operand edges x)
      else active operand edges x := by
  have hle := h.count_stop_le operand x
  simp only [active, count_append, count_singleton]
  by_cases hspans : e.operand = operand ∧ e.Spans x
  · cases hkind : e.kind with
    | start =>
        simp [hspans, Kind.adjust]
        omega
    | stop =>
        simp [hspans, Kind.adjust]
        omega
  · simp [hspans]

end Schedule

/-!
## The edges of two covers

A proper member covers a row once it has started and until it stops.  So the edges of two proper
covers tell how often each of them covers a point.
-/

def coverOf (a b : Cover) : Operand → Cover
  | .a => a
  | .b => b

section Count

variable (kind : Kind) (operand : Operand) (p : Edge → Prop) [DecidablePred p] (x : Int)

theorem count_filter_ofCover (owner : Operand) (c : Cover) :
    count kind operand ((ofCover owner c).filter p) x =
      if owner = operand then c.countP fun r => r.ContainsX x ∧ p (kind.edgeOf operand r)
      else 0 := by
  induction c with
  | nil => simp [ofCover, count]
  | cons r c ih =>
      simp only [count, ofCover, List.countP_filter, List.flatMap_cons, List.countP_append] at *
      rw [ih]
      by_cases howner : owner = operand
      · by_cases hx : r.ContainsX x
        · cases kind <;>
            simp [ofRect, List.countP_cons, howner, Spans, hx.1, hx.2, hx, Kind.edgeOf,
              Kind.rowOf, Nat.add_comm]
        · have hspans : ¬ (r.left ≤ x ∧ x ≤ r.right) := hx
          cases kind <;> simp [ofRect, howner, Spans, hspans, hx]
      · simp [ofRect, howner]

theorem count_filter_ofOperands (a b : Cover) :
    count kind operand ((ofOperands a b).filter p) x =
      (coverOf a b operand).countP fun r => r.ContainsX x ∧ p (kind.edgeOf operand r) := by
  have hperm : ((ofOperands a b).filter p).Perm
      ((ofCover .a a).filter p ++ (ofCover .b b).filter p) := by
    rw [← List.filter_append]
    exact (List.mergeSort_perm _ _).filter _
  rw [count, hperm.countP_eq, ← count, count_append, count_filter_ofCover, count_filter_ofCover]
  cases operand <;> simp [coverOf]

theorem count_upTo_ofOperands (a b : Cover) (row : Int) :
    count kind operand (upTo row (ofOperands a b)) x =
      (coverOf a b operand).countP fun r => r.ContainsX x ∧ kind.rowOf r ≤ row :=
  count_filter_ofOperands kind operand (fun e => e.row ≤ row) x a b

end Count

theorem coverage_add_stopped {c : Cover} (h : c.Proper) (x y : Int) :
    c.coverage x y + c.countP (fun r => r.ContainsX x ∧ Kind.rowOf .stop r ≤ y) =
      c.countP fun r => r.ContainsX x ∧ Kind.rowOf .start r ≤ y := by
  induction c with
  | nil => rfl
  | cons r c ih =>
      have hr := Rect.not_isEmpty_iff.mp (h r (by simp))
      have ihc := ih fun s hs => h s (by simp [hs])
      simp only [Cover.coverage, List.countP_cons, Kind.rowOf] at *
      by_cases hx : r.ContainsX x
      · simp only [Rect.Contains, Rect.ContainsY, hx, true_and, decide_eq_true_eq] at *
        split_ifs <;> omega
      · simpa [Rect.Contains, hx] using ihc

theorem depth_ofOperands {a b : Cover} (ha : a.Proper) (hb : b.Proper) (operand : Operand)
    (x y : Int) : depth operand (ofOperands a b) x y = (coverOf a b operand).coverage x y := by
  have hproper : (coverOf a b operand).Proper := by
    cases operand
    · exact ha
    · exact hb
  have hcount := coverage_add_stopped hproper x y
  rw [depth, active, count_upTo_ofOperands, count_upTo_ofOperands]
  omega

/-!
## Every prefix is a schedule

In a sorted list the edges that do not come before a given one add nothing to the counts up to an
earlier row, and a start edge has no stop edge of its own row after it.
-/

theorem mem_ofOperands {a b : Cover} {e : Edge} (h : e ∈ ofOperands a b) :
    ∃ r ∈ coverOf a b e.operand,
      e.left = r.left ∧ e.right = r.right ∧ e.row = e.kind.rowOf r := by
  rw [ofOperands, List.mem_mergeSort, List.mem_append] at h
  rcases h with h | h
  · rcases List.mem_flatMap.mp h with ⟨r, hr, he⟩
    simp only [ofRect, List.mem_cons, List.not_mem_nil, or_false] at he
    rcases he with rfl | rfl <;> exact ⟨r, hr, rfl, rfl, rfl⟩
  · rcases List.mem_flatMap.mp h with ⟨r, hr, he⟩
    simp only [ofRect, List.mem_cons, List.not_mem_nil, or_false] at he
    rcases he with rfl | rfl <;> exact ⟨r, hr, rfl, rfl, rfl⟩

theorem edge_mem_ofOperands {a b : Cover} {operand : Operand} {r : Rect}
    (h : r ∈ coverOf a b operand) (kind : Kind) : kind.edgeOf operand r ∈ ofOperands a b := by
  rw [ofOperands, List.mem_mergeSort, List.mem_append]
  cases operand with
  | a =>
      left
      exact List.mem_flatMap.mpr ⟨r, h, by cases kind <;> simp [ofRect, Kind.edgeOf, Kind.rowOf]⟩
  | b =>
      right
      exact List.mem_flatMap.mpr ⟨r, h, by cases kind <;> simp [ofRect, Kind.edgeOf, Kind.rowOf]⟩

theorem count_upTo_eq_zero {edges : List Edge} {kind : Kind} {row : Int}
    (h : ∀ e ∈ edges, e.kind = kind → row < e.row) (operand : Operand) (x : Int) :
    count kind operand (upTo row edges) x = 0 := by
  rw [count, List.countP_eq_zero]
  intro e he
  simp only [upTo, List.mem_filter, decide_eq_true_eq] at he
  intro hcount
  simp only [decide_eq_true_eq] at hcount
  have := h e he.1 hcount.1
  omega

theorem count_upTo_append_le {edges more : List Edge} {kind : Kind} {row : Int}
    (h : ∀ e ∈ more, e.kind = kind → row < e.row) (operand : Operand) (x : Int) :
    count kind operand (upTo row (edges ++ more)) x ≤ count kind operand edges x := by
  rw [upTo, List.filter_append, ← upTo, ← upTo, count_append, count_upTo_eq_zero h, Nat.add_zero]
  exact count_le_of_sublist List.filter_sublist kind operand x

theorem count_le_count_upTo {edges more : List Edge} {row : Int} (h : ∀ e ∈ edges, e.row ≤ row)
    (kind : Kind) (operand : Operand) (x : Int) :
    count kind operand edges x ≤ count kind operand (upTo row (edges ++ more)) x := by
  have hall : upTo row edges = edges := by
    rw [upTo, List.filter_eq_self]
    intro e he
    simpa using h e he
  rw [upTo, List.filter_append, ← upTo, ← upTo, hall, count_append]
  omega

end Edge

namespace Cover

/-- What makes a cover an operand that a sweep can count: its bounds are in range, and no point is
covered more often than a word can tell. -/
structure Sweepable (c : Cover) : Prop where
  inRange : c.InRange
  coverage_le : ∀ x y, c.coverage x y ≤ Arith.maxCount

theorem Sweepable.nonempty {c : Cover} (h : c.Sweepable) : c.nonempty.Sweepable := by
  refine ⟨inRange_nonempty h.inRange, ?_⟩
  intro x y
  rw [coverage_nonempty]
  exact h.coverage_le x y

theorem sweepable_of_length {c : Cover} (h : c.InRange) (hlength : c.length ≤ Arith.maxCount) :
    c.Sweepable :=
  ⟨h, fun _ _ => Nat.le_trans List.countP_le_length hlength⟩

theorem sweepable_nil : Sweepable [] :=
  sweepable_of_length (by simp [InRange]) (by simp)

theorem sweepable_singleton {r : Rect} (h : r.InRange) : Sweepable [r] :=
  sweepable_of_length (by simpa [InRange] using h) (by simp [Arith.maxCount])

theorem sweepable_plane : Sweepable [Rect.plane] :=
  sweepable_singleton (by decide)

theorem Partitions.sweepable {c : Cover} {points : Int → Int → Prop} (h : c.Partitions points) :
    c.Sweepable := by
  refine ⟨h.inRange, ?_⟩
  intro x y
  exact Nat.le_trans (h.apart.coverage_le_one x y) (by decide)

theorem Sweepable.perm {c d : Cover} (h : c.Sweepable) (hcd : c.Perm d) : d.Sweepable := by
  constructor
  · intro r hr
    exact h.inRange r (hcd.mem_iff.mpr hr)
  · intro x y
    rw [coverage, ← hcd.countP_eq]
    exact h.coverage_le x y

end Cover

namespace Edge

section Prefix

variable {a b : Cover} {edges more : List Edge} {e : Edge}

theorem le_of_ofOperands_eq (h : ofOperands a b = edges ++ e :: more) :
    (∀ f ∈ edges, f.Le e) ∧ ∀ f ∈ more, e.Le f := by
  have hsorted := pairwise_ofOperands a b
  rw [h, List.pairwise_append, List.pairwise_cons] at hsorted
  exact ⟨fun f hf => hsorted.2.2 f hf e (by simp), hsorted.2.1.1⟩

theorem Le.row_le {e f : Edge} (h : e.Le f) : e.row ≤ f.row := by
  simp only [Le] at h
  omega

theorem row_le_of_ofOperands_eq (h : ofOperands a b = edges ++ e :: more) :
    ∀ f ∈ edges ++ [e], f.row ≤ e.row := by
  intro f hf
  rcases List.mem_append.mp hf with hf | hf
  · exact ((le_of_ofOperands_eq h).1 f hf).row_le
  · exact Int.le_of_eq (congrArg row (List.mem_singleton.mp hf))

theorem count_le_count_upTo_row (h : ofOperands a b = edges ++ e :: more) (kind : Kind)
    (operand : Operand) (x : Int) :
    count kind operand (edges ++ [e]) x ≤
      count kind operand (upTo e.row (ofOperands a b)) x := by
  rw [h, List.append_cons edges e more]
  exact count_le_count_upTo (row_le_of_ofOperands_eq h) ..

/-- With a start edge, a rectangle of its operand begins to cover its row. -/
theorem active_lt_of_start (h : ofOperands a b = edges ++ e :: more)
    (hproper : (coverOf a b e.operand).Proper) (hcover : (coverOf a b e.operand).Sweepable)
    (hkind : e.kind = .start) {x : Int} (hx : e.Spans x) :
    active e.operand edges x < Arith.maxCount := by
  have hafter := (le_of_ofOperands_eq h).2
  -- both are counted in the row of `e`, in which the stop edges come before the start edges
  have hstarts := count_le_count_upTo_row h .start e.operand x
  have hstops : count .stop e.operand (upTo e.row (ofOperands a b)) x ≤
      count .stop e.operand edges x := by
    rw [h]
    apply count_upTo_append_le
    intro f hf hstop
    rcases List.mem_cons.mp hf with rfl | hf
    · rw [hkind] at hstop
      cases hstop
    · have hef := hafter f hf
      simp only [Le, hkind, hstop, Kind.rank] at hef
      omega
  have hpoint := coverage_add_stopped hproper x e.row
  have hbound := hcover.coverage_le x e.row
  have hpos : 0 < Arith.maxCount := by decide
  rw [count_append, count_singleton, if_pos ⟨hkind, rfl, hx⟩] at hstarts
  rw [count_upTo_ofOperands] at hstarts hstops
  rw [active]
  omega

theorem count_lt_of_stop (h : ofOperands a b = edges ++ e :: more)
    (hproper : (coverOf a b e.operand).Proper) (hkind : e.kind = .stop) {x : Int}
    (hx : e.Spans x) :
    count .stop e.operand edges x < count .start e.operand edges x := by
  have hafter := (le_of_ofOperands_eq h).2
  have hstops := count_le_count_upTo_row h .stop e.operand x
  have hstarts : count .start e.operand (upTo (e.row - 1) (ofOperands a b)) x ≤
      count .start e.operand edges x := by
    rw [h]
    apply count_upTo_append_le
    intro f hf _
    rcases List.mem_cons.mp hf with rfl | hf
    · omega
    · have hrow := (hafter f hf).row_le
      omega
  have hmembers : (coverOf a b e.operand).countP
        (fun r => r.ContainsX x ∧ Kind.rowOf .stop r ≤ e.row) ≤
      (coverOf a b e.operand).countP
        fun r => r.ContainsX x ∧ Kind.rowOf .start r ≤ e.row - 1 := by
    apply List.countP_mono_left
    intro r hr hcount
    have hrows := Rect.not_isEmpty_iff.mp (hproper r hr)
    rcases of_decide_eq_true hcount with ⟨hcolumn, hrow⟩
    simp only [Kind.rowOf] at hrow
    exact decide_eq_true ⟨hcolumn, by simp only [Kind.rowOf]; omega⟩
  rw [count_append, count_singleton, if_pos ⟨hkind, rfl, hx⟩] at hstops
  rw [count_upTo_ofOperands] at hstarts hstops
  omega

theorem admits_of_ofOperands_eq (h : ofOperands a b = edges ++ e :: more) (ha : a.Proper)
    (hb : b.Proper) (hsa : a.Sweepable) (hsb : b.Sweepable) : Admits edges e := by
  have hproper : (coverOf a b e.operand).Proper := by
    cases e.operand
    · exact ha
    · exact hb
  have hcover : (coverOf a b e.operand).Sweepable := by
    cases e.operand
    · exact hsa
    · exact hsb
  have hmem : e ∈ ofOperands a b := by simp [h]
  rcases mem_ofOperands hmem with ⟨r, hr, hleft, hright, hrow⟩
  have hsides := Rect.not_isEmpty_iff.mp (hproper r hr)
  have hrange := hcover.inRange r hr
  simp only [Rect.InRange, InRange] at hrange
  refine ⟨⟨by omega, by omega, by omega⟩, ?_, ?_, (le_of_ofOperands_eq h).1, ?_, ?_⟩
  · cases hkind : e.kind <;> simp only [hkind, Kind.rowOf] at hrow <;> omega
  · cases hkind : e.kind <;> simp only [hkind, Kind.rowOf] at hrow <;> omega
  · intro hkind x hx
    exact active_lt_of_start h hproper hcover hkind hx
  · intro hkind x hx
    exact count_lt_of_stop h hproper hkind hx

theorem schedule_of_ofOperands_eq (h : ofOperands a b = edges ++ more) (ha : a.Proper)
    (hb : b.Proper) (hsa : a.Sweepable) (hsb : b.Sweepable) : Schedule edges := by
  induction edges using List.reverseRecOn generalizing more with
  | nil => exact Schedule.nil
  | append_singleton edges e ih =>
      rw [List.append_assoc, List.singleton_append] at h
      exact (ih h).snoc (admits_of_ofOperands_eq h ha hb hsa hsb)

theorem schedule_ofOperands (ha : a.Proper) (hb : b.Proper) (hsa : a.Sweepable)
    (hsb : b.Sweepable) : Schedule (ofOperands a b) :=
  schedule_of_ofOperands_eq (List.append_nil _).symm ha hb hsa hsb

end Prefix

end Edge

end Rectilinear
