import Rectilinear.Proofs.NormalForm

/-!
# Repeated members

A member that repeats an earlier one makes no difference to normalizing.  Whatever takes in the
earlier copy takes in the later one as well before it ends, and grows no further by it.
-/

namespace Rectilinear

namespace Cover

theorem takeMergeable_append_of_some {r s : Rect} {b others : Cover}
    (h : takeMergeable r b = some (s, others)) (c : Cover) :
    takeMergeable r (b ++ c) = some (s, others ++ c) := by
  induction b generalizing s others with
  | nil => simp [takeMergeable] at h
  | cons t b ih =>
      simp only [takeMergeable] at h
      rw [List.cons_append, takeMergeable]
      split at h
      · rename_i hrt
        cases h
        rw [if_pos hrt]
      · rename_i hrt
        split at h
        · cases h
        · rename_i htake
          cases h
          rw [if_neg hrt, ih htake]
          rfl

theorem takeMergeable_append_of_none {r : Rect} {b : Cover} (h : takeMergeable r b = none)
    (c : Cover) :
    takeMergeable r (b ++ c) = (takeMergeable r c).map fun taken => (taken.1, b ++ taken.2) := by
  induction b with
  | nil => simp
  | cons t b ih =>
      have hnone := takeMergeable_eq_none h
      have ht : ¬ r.Mergeable t := hnone t (by simp)
      have hb : takeMergeable r b = none :=
        takeMergeable_of_forall fun s hs => hnone s (by simp [hs])
      rw [List.cons_append, takeMergeable, if_neg ht, ih hb]
      cases takeMergeable r c <;> rfl

theorem absorb_of_inside {r s : Rect} (h : s.Inside r) (b c : Cover) :
    absorb r (b ++ s :: c) = absorb r (b ++ c) := by
  induction hlength : b.length using Nat.strong_induction_on generalizing r b with
  | _ n ih =>
      cases htake : takeMergeable r b with
      | some taken =>
          have hshort := length_of_takeMergeable htake
          rw [absorb_of_take_some (takeMergeable_append_of_some htake _),
            absorb_of_take_some (takeMergeable_append_of_some htake _)]
          exact ih taken.2.length (by omega) (h.trans (Rect.inside_hull_left r taken.1)) taken.2 rfl
      | none =>
          have hs : takeMergeable r (b ++ s :: c) = some (s, b ++ c) := by
            rw [takeMergeable_append_of_none htake, takeMergeable, if_pos (.inl h)]
            rfl
          rw [absorb_of_take_some hs, Rect.hull_of_inside h]

/-!
## Dropping a copy

A cover is compared with the one that lacks a copy of an earlier member.  A pass leaves no copy, so
that after the first pass there is no difference, and every cover has the normal form of one that
holds the same members once each.
-/

inductive DropsCopy : Cover → Cover → Prop where
  | intro {b : Cover} {r : Rect} (c : Cover) : r ∈ b → DropsCopy (b ++ r :: c) (b ++ c)

/-- With and without the copy the same member is taken first.  What is left differs by a copy,
either of a member that is left too or of the one that was taken. -/
theorem takeMergeable_dropsCopy {c d : Cover} (h : DropsCopy c d) (r : Rect) :
    takeMergeable r c = none ∧ takeMergeable r d = none ∨
      ∃ s c' d', takeMergeable r c = some (s, c') ∧ takeMergeable r d = some (s, d') ∧
        (DropsCopy c' d' ∨ ∃ b e, c' = b ++ s :: e ∧ d' = b ++ e) := by
  cases h with
  | @intro b s c hs =>
      cases hb : takeMergeable r b with
      | some taken =>
          refine .inr ⟨taken.1, _, _, takeMergeable_append_of_some hb _,
            takeMergeable_append_of_some hb _, ?_⟩
          have hperm := (takeMergeable_eq_some hb).2
          rcases List.mem_cons.mp (hperm.mem_iff.mp hs) with rfl | hs
          · exact .inr ⟨_, _, rfl, rfl⟩
          · exact .inl (.intro c hs)
      | none =>
          have hrs : ¬ r.Mergeable s := takeMergeable_eq_none hb s hs
          rw [takeMergeable_append_of_none hb, takeMergeable_append_of_none hb, takeMergeable,
            if_neg hrs]
          cases takeMergeable r c with
          | none => exact .inl ⟨rfl, rfl⟩
          | some taken => exact .inr ⟨taken.1, _, _, rfl, rfl, .inl (.intro taken.2 hs)⟩

/-- What takes in members ends up the same without the copy, and leaves the same members, unless it
leaves both copies. -/
theorem absorb_dropsCopy {c d : Cover} (h : DropsCopy c d) (r : Rect) :
    (absorb r c).1 = (absorb r d).1 ∧
      ((absorb r c).2 = (absorb r d).2 ∨ DropsCopy (absorb r c).2 (absorb r d).2) := by
  induction hlength : c.length using Nat.strong_induction_on generalizing r c d with
  | _ n ih =>
      rcases takeMergeable_dropsCopy h r with ⟨hc, hd⟩ | ⟨s, c', d', hc, hd, hleft⟩
      · rw [absorb_of_take_none hc, absorb_of_take_none hd]
        exact ⟨rfl, .inr h⟩
      · have hshort := length_of_takeMergeable hc
        rw [absorb_of_take_some hc, absorb_of_take_some hd]
        rcases hleft with hdrops | ⟨b, e, rfl, rfl⟩
        · exact ih c'.length (by omega) hdrops (r.hull s) rfl
        · rw [absorb_of_inside (Rect.inside_hull_right r s)]
          exact ⟨rfl, .inl rfl⟩

theorem mergePass_dropsCopy {c d : Cover} (h : DropsCopy c d) : mergePass c = mergePass d := by
  induction hlength : c.length using Nat.strong_induction_on generalizing c d with
  | _ n ih =>
      cases h with
      | @intro b s c hs =>
          cases b with
          | nil => simp at hs
          | cons r b =>
              -- either the copy is one of the member that the pass comes to, or of a later one
              rw [List.cons_append, List.cons_append, mergePass, mergePass]
              rcases List.mem_cons.mp hs with rfl | hs
              · rw [absorb_of_inside (Rect.inside_refl s)]
              · have habsorb := absorb_dropsCopy (.intro c hs) r
                rw [habsorb.1]
                rcases habsorb.2 with hsame | hdrops
                · rw [hsame]
                · have hshort := length_absorb_le r (b ++ s :: c)
                  simp only [List.length_append, List.length_cons] at hlength hshort
                  rw [ih _ (by omega) hdrops rfl]

theorem cover_mergeAll_mergePass (c : Cover) :
    (mergeAll (mergePass c)).cover = (mergeAll c).cover := by
  by_cases h : (mergePass c).length < c.length
  · rw [mergeAll.eq_def c, if_pos h]
  · have hpass := length_mergePass_le c
    have hun : c.Unmergeable := unmergeable_of_length_mergePass (by omega)
    rw [mergePass_of_unmergeable hun]

theorem normalize_append_cons_of_mem {b : Cover} {r : Rect} (h : r ∈ b) (c : Cover) :
    normalize (b ++ r :: c) = normalize (b ++ c) := by
  by_cases hempty : r.IsEmpty
  · simp [normalize, normalization, nonempty, hempty]
  · have hb : r ∈ b.nonempty := List.mem_filter.mpr ⟨h, by simpa using hempty⟩
    have hwith : nonempty (b ++ r :: c) = b.nonempty ++ r :: c.nonempty := by
      simp [nonempty, hempty]
    have hwithout : nonempty (b ++ c) = b.nonempty ++ c.nonempty := by
      simp [nonempty]
    have hcover : (mergeAll (nonempty (b ++ r :: c))).cover =
        (mergeAll (nonempty (b ++ c))).cover := by
      rw [hwith, hwithout, ← cover_mergeAll_mergePass, mergePass_dropsCopy (.intro c.nonempty hb),
        cover_mergeAll_mergePass]
    simp only [normalize, normalization, hcover]

theorem exists_nodup_normalize_eq (c : Cover) :
    ∃ d : Cover, d.Nodup ∧ (∀ r, r ∈ d ↔ r ∈ c) ∧ d.normalize = c.normalize := by
  have hrest : ∃ d : Cover, d.Nodup ∧ (∀ r, r ∈ d ↔ r ∈ c) ∧
      ∀ rest : Cover, normalize (d ++ rest) = normalize (c ++ rest) := by
    induction c using List.reverseRecOn with
    | nil => exact ⟨[], by simp⟩
    | append_singleton c r ih =>
        rcases ih with ⟨d, hnodup, hmem, hnormalize⟩
        by_cases hr : r ∈ c
        · refine ⟨d, hnodup, ?_, ?_⟩
          · intro s
            rw [hmem, List.mem_append, List.mem_singleton]
            constructor
            · exact .inl
            · rintro (hs | rfl)
              · exact hs
              · exact hr
          · intro rest
            rw [hnormalize, List.append_assoc, List.singleton_append,
              normalize_append_cons_of_mem hr]
        · refine ⟨d ++ [r], ?_, ?_, ?_⟩
          · rw [(List.perm_append_singleton r d).nodup_iff, List.nodup_cons, hmem]
            exact ⟨hr, hnodup⟩
          · simp [hmem]
          · intro rest
            rw [List.append_assoc, List.append_assoc, hnormalize]
  rcases hrest with ⟨d, hnodup, hmem, hnormalize⟩
  exact ⟨d, hnodup, hmem, by simpa using hnormalize []⟩

end Cover

end Rectilinear
