import Rectilinear.Proofs.Emission

/-!
# Places of edges

The order of a sweep does not see which operand an edge is of, so edges of both operands may share a
place in it.  Only the first edge at a place adds to the result: the others meet bands that were
opened at their own row.  What a sweep emits is therefore told by the places alone, each taken with
the edges strictly below it, whatever order the edges at one place have.
-/

namespace Rectilinear

namespace Edge

/-- An edge as the order sees it. -/
def place (e : Edge) : Edge :=
  { e with operand := .a }

def places (edges : List Edge) : List Edge :=
  edges.foldl (fun seen e => if e.place ∈ seen then seen else seen ++ [e.place]) []

def below (p : Edge) (edges : List Edge) : List Edge :=
  edges.filter fun e => ¬ p.Le e

section Places

variable {edges others : List Edge} {e f p : Edge}

theorem place_eq_of_le (hef : e.Le f) (hfe : f.Le e) : e.place = f.place := by
  have hkind : e.kind = f.kind := by
    cases he : e.kind <;> cases hf : f.kind <;>
      simp only [Le, he, hf, Kind.rank] at hef hfe <;> first | rfl | omega
  simp only [Le, hkind] at hef hfe
  simp only [place, mk.injEq, and_true]
  exact ⟨by omega, hkind, by omega, by omega⟩

theorem le_of_place_eq (h : e.place = f.place) : e.Le f := by
  simp only [place, mk.injEq, and_true] at h
  exact .inr ⟨h.1, .inr ⟨by rw [h.2.1], .inr ⟨h.2.2.1, Int.le_of_eq h.2.2.2⟩⟩⟩

theorem OnLine.place (h : e.OnLine) : e.place.OnLine :=
  ⟨h.left_le_right, h.left_ge, h.right_le⟩

theorem places_append_singleton (edges : List Edge) (e : Edge) :
    places (edges ++ [e]) =
      if e.place ∈ places edges then places edges else places edges ++ [e.place] := by
  rw [places, List.foldl_append]
  rfl

theorem mem_places : p ∈ places edges ↔ ∃ e ∈ edges, e.place = p := by
  induction edges using List.reverseRecOn with
  | nil => simp [places]
  | append_singleton edges e ih =>
      rw [places_append_singleton]
      split
      · rename_i hseen
        constructor
        · intro hp
          rcases ih.mp hp with ⟨f, hf, hplace⟩
          exact ⟨f, by simp [hf], hplace⟩
        · rintro ⟨f, hf, rfl⟩
          rcases List.mem_append.mp hf with hf | hf
          · exact ih.mpr ⟨f, hf, rfl⟩
          · rw [List.mem_singleton.mp hf]
            exact hseen
      · simp only [List.mem_append, ih, List.mem_singleton, or_and_right, exists_or,
          exists_eq_left, eq_comm (a := p)]

theorem nodup_places (edges : List Edge) : (places edges).Nodup := by
  induction edges using List.reverseRecOn with
  | nil => exact List.nodup_nil
  | append_singleton edges e ih =>
      rw [places_append_singleton]
      split
      · exact ih
      · rename_i hnew
        refine List.nodup_append.mpr ⟨ih, List.pairwise_singleton _ _, ?_⟩
        intro p hp q hq hpq
        rw [List.mem_singleton.mp hq] at hpq
        rw [hpq] at hp
        exact hnew hp

theorem pairwise_places (h : edges.Pairwise Le) : (places edges).Pairwise Le := by
  induction edges using List.reverseRecOn with
  | nil => exact List.Pairwise.nil
  | append_singleton edges e ih =>
      rcases List.pairwise_append.mp h with ⟨hedges, _, hlast⟩
      rw [places_append_singleton]
      split
      · exact ih hedges
      · refine List.pairwise_append.mpr ⟨ih hedges, List.pairwise_singleton _ _, ?_⟩
        intro p hp q hq
        rcases mem_places.mp hp with ⟨f, hf, rfl⟩
        rw [List.mem_singleton.mp hq]
        exact hlast f hf e (by simp)

theorem places_eq (h : edges.Pairwise Le) (hothers : others.Pairwise Le)
    (hmem : ∀ p, p ∈ places edges ↔ p ∈ places others) : places edges = places others := by
  have hperm : (places edges).Perm (places others) :=
    (List.perm_ext_iff_of_nodup (nodup_places edges) (nodup_places others)).mpr hmem
  refine hperm.eq_of_pairwise ?_ (pairwise_places h) (pairwise_places hothers)
  intro p q hp hq hpq hqp
  rcases mem_places.mp hp with ⟨e, _, rfl⟩
  rcases mem_places.mp hq with ⟨f, _, rfl⟩
  exact place_eq_of_le hpq hqp

theorem mem_below : e ∈ below p edges ↔ e ∈ edges ∧ ¬ p.Le e := by
  simp [below]

theorem below_append_of_le (h : p.Le e) : below p (edges ++ [e]) = below p edges := by
  simp [below, List.filter_append, h]

theorem below_eq_self (h : ∀ e ∈ edges, ¬ p.Le e) : below p edges = edges := by
  rw [below, List.filter_eq_self]
  intro e he
  exact decide_eq_true (h e he)

theorem schedule_below (h : Schedule edges) (p : Edge) : Schedule (below p edges) := by
  induction h with
  | nil => exact Schedule.nil
  | @snoc edges e hedges hadmits ih =>
      by_cases hle : p.Le e
      · rw [below_append_of_le hle]
        exact ih
      · rw [below_eq_self]
        · exact hedges.snoc hadmits
        · intro f hf hpf
          rcases List.mem_append.mp hf with hf | hf
          · exact hle (le_trans hpf (hadmits.ordered f hf))
          · rw [List.mem_singleton.mp hf] at hpf
            exact hle hpf

end Places

end Edge

namespace Sweep

variable {coalesce : Bool} {op : SetOp} {edges : List Edge} {edge : Edge}

theorem released_eq_nil {bands : List Band} (h : Tracks coalesce op edges bands)
    (hedges : Edge.Schedule edges) (hedge : Edge.Admits edges edge)
    (hplace : edge.place ∈ Edge.places edges) : Band.released op edge bands = [] := by
  rcases Edge.mem_places.mp hplace with ⟨e, he, heq⟩
  simp only [Edge.place, Edge.mk.injEq, and_true] at heq
  rw [List.eq_nil_iff_forall_not_mem]
  intro r hr
  rcases Band.mem_released.mp hr with ⟨band, hband, hholds, hlt, _⟩
  have hbounds := (Band.tiles_parts h.tiles hedge.toOnLine).2.1.bounds band hband
  have hspans : e.Spans band.left := ⟨by omega, by omega⟩
  have hrow := hedges.row_le_lastRow e he hspans
  have hopen := (Band.fits_inside h.fits band hband band.left ⟨Int.le_refl _, hbounds.2.1⟩).2 hholds
  omega

theorem emitted_through (h : Edge.Schedule edges) :
    (through coalesce op edges).emitted =
      (Edge.places edges).flatMap fun p =>
        Band.released op p (through coalesce op (Edge.below p edges)).bands := by
  induction h with
  | nil => rfl
  | @snoc edges edge hedges hedge ih =>
      have hstep : (through coalesce op (edges ++ [edge])).emitted =
          (through coalesce op edges).emitted ++
            Band.released op edge (through coalesce op edges).bands := by
        rw [through_append_singleton]
        rfl
      have hbelow : ∀ p ∈ Edge.places edges,
          Edge.below p (edges ++ [edge]) = Edge.below p edges := by
        intro p hp
        rcases Edge.mem_places.mp hp with ⟨e, he, rfl⟩
        exact Edge.below_append_of_le (hedge.ordered e he)
      have hold : (Edge.places edges).flatMap (fun p =>
          Band.released op p (through coalesce op (Edge.below p (edges ++ [edge]))).bands) =
            (through coalesce op edges).emitted := by
        rw [ih]
        apply List.flatMap_congr
        intro p hp
        rw [hbelow p hp]
      rw [hstep, Edge.places_append_singleton]
      split
      · rename_i hseen
        -- an earlier edge in this place has released what was open there
        rw [hold, released_eq_nil (tracks_through hedges) hedges hedge hseen, List.append_nil]
      · rename_i hnew
        -- the edges before the first one in a place are those below the place
        have hall : Edge.below edge.place (edges ++ [edge]) = edges := by
          have hself : edge.place.Le edge := Edge.le_of_place_eq rfl
          rw [Edge.below_append_of_le hself, Edge.below_eq_self]
          intro e he hle
          have hplace := Edge.place_eq_of_le (hedge.ordered e he) hle
          exact hnew (Edge.mem_places.mpr ⟨e, he, hplace⟩)
        rw [List.flatMap_append, hold, List.flatMap_singleton, hall]
        rfl

end Sweep

end Rectilinear
