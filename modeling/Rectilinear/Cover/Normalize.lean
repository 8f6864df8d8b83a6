import Rectilinear.Cover.Canonical

/-!
# Normalizing covers

Normalizing drops empty members, merges members into their bounding boxes until no two are
mergeable, and sorts what is left.  A merge can make a member mergeable with one that was passed
before, so a member takes in others until none of the later ones fits, and passes over the whole
cover are repeated until one changes nothing.
-/

namespace Rectilinear

namespace Cover

def takeMergeable (r : Rect) : Cover → Option (Rect × Cover)
  | [] => none
  | s :: rest =>
      if r.Mergeable s then
        some (s, rest)
      else
        match takeMergeable r rest with
        | none => none
        | some (t, others) => some (t, s :: others)

theorem length_of_takeMergeable {r s : Rect} {c others : Cover}
    (h : takeMergeable r c = some (s, others)) : others.length + 1 = c.length := by
  induction c generalizing s others with
  | nil => simp [takeMergeable] at h
  | cons head rest ih =>
      simp only [takeMergeable] at h
      split at h
      · simp only [Option.some.injEq, Prod.mk.injEq] at h
        simp [h.2]
      · split at h
        · simp at h
        · rename_i t tail htake
          simp only [Option.some.injEq, Prod.mk.injEq] at h
          have := ih htake
          simp [← h.2, this]

/-- Merges members into `r` for as long as one fits; the rectangle that results and the members that
are left. -/
def absorb (r : Rect) (c : Cover) : Rect × Cover :=
  match _h : takeMergeable r c with
  | none => (r, c)
  | some (s, others) => absorb (r.hull s) others
termination_by c.length
decreasing_by
  have := length_of_takeMergeable _h
  omega

theorem length_absorb_le (r : Rect) (c : Cover) : (absorb r c).2.length ≤ c.length := by
  fun_induction absorb r c with
  | case1 => simp
  | case2 r c s others h ih =>
      have := length_of_takeMergeable h
      omega

def mergePass : Cover → Cover
  | [] => []
  | r :: rest =>
      let absorbed := absorb r rest
      absorbed.1 :: mergePass absorbed.2
termination_by c => c.length
decreasing_by
  have := length_absorb_le r rest
  simp only [List.length_cons]
  omega

theorem length_mergePass_le (c : Cover) : (mergePass c).length ≤ c.length := by
  fun_induction mergePass c with
  | case1 => simp
  | case2 r rest absorbed ih =>
      have : absorbed.2.length ≤ rest.length := length_absorb_le r rest
      simp only [List.length_cons]
      omega

structure Normalization where
  cover : Cover
  passes : Nat
  deriving DecidableEq, Repr

/-- Repeats passes until one merges nothing; that one is counted too. -/
def mergeAll (c : Cover) : Normalization :=
  if (mergePass c).length < c.length then
    let rest := mergeAll (mergePass c)
    { rest with passes := rest.passes + 1 }
  else
    ⟨c, 1⟩
termination_by c.length

def normalization (c : Cover) : Normalization :=
  let merged := mergeAll c.nonempty
  { merged with cover := merged.cover.sorted }

def normalize (c : Cover) : Cover :=
  c.normalization.cover

end Cover

end Rectilinear
