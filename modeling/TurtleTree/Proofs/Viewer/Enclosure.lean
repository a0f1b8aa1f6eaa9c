/-
TurtleTree/Proofs/Viewer/Enclosure.lean

The box around a picture.

A box has two sides along each axis, and covering a point moves each side to the extreme
of where it was and where the point is.  So the six sides are treated alike
(`Bounds.face_cover`): a side lies beyond all points covered so far and touches one of
them, and covering one more point keeps that (`Bounds.Fits.cover`).  Only numbers have an
extreme, hence the coordinates must be numbers; infinities are.

Boxes that fit the same points are equal, in whatever order the points were covered
(`Bounds.Fits.beq`).  Equality is that of numbers: which of two zeros a side holds may
depend on the order.

Main result: `Picture.encloses_bounds?`.
-/
import TurtleTree.Proofs.Number.Ranking
import TurtleTree.Viewer.Picture

namespace TurtleTree

/-! ### Axes and sides -/

/-- An axis of space. -/
inductive Axis where
  | x
  | y
  | z

/-- The coordinate along an axis. -/
def Vector3.along (v : Vector3) : Axis → Float32
  | .x => v.x
  | .y => v.y
  | .z => v.z

/-- All coordinates are numbers. -/
def Vector3.Defined (v : Vector3) : Prop := ∀ a, (v.along a).isNaN = false

/-- A side of a box along an axis. -/
inductive Side where
  | low
  | high

namespace Side

/-- The value is not beyond the side. -/
def Keeps : Side → Float32 → Float32 → Prop
  | low, side, x => side ≤ x
  | high, side, x => x ≤ side

/-- The one of two values that is farther out. -/
def extreme : Side → Float32 → Float32 → Float32
  | low => Single.min
  | high => Single.max

variable (s : Side) {x y z : Float32}

theorem keeps_refl (hx : x.isNaN = false) : s.Keeps x x := by
  cases s <;> exact Single.le_refl hx

theorem keeps_trans (hxy : s.Keeps x y) (hyz : s.Keeps y z) : s.Keeps x z := by
  cases s with
  | low => exact Single.le_trans hxy hyz
  | high => exact Single.le_trans hyz hxy

/-- The extreme of two numbers is one of them and keeps the other. -/
theorem extreme_cases (hx : x.isNaN = false) (hy : y.isNaN = false) :
    s.extreme x y = x ∧ s.Keeps x y ∨ s.extreme x y = y ∧ s.Keeps y x := by
  cases s with
  | low => exact Single.min_cases hx hy
  | high => exact Single.max_cases hx hy

end Side

/-! ### Boxes -/

namespace Bounds

variable {b c : Bounds} {ps qs : List Vector3} {p : Vector3}

/-- Where a side of the box stands. -/
def face (b : Bounds) : Side → Axis → Float32
  | .low, a => b.low.along a
  | .high, a => b.high.along a

/-- The point lies in the box. -/
def Encloses (b : Bounds) (q : Vector3) : Prop :=
  ∀ a, b.low.along a ≤ q.along a ∧ q.along a ≤ b.high.along a

/-- Every side of the box keeps all of the points and touches one of them. -/
structure Fits (b : Bounds) (ps : List Vector3) : Prop where
  keeps : ∀ q ∈ ps, ∀ (s : Side) (a : Axis), s.Keeps (b.face s a) (q.along a)
  touches : ∀ (s : Side) (a : Axis), ∃ q ∈ ps, q.along a = b.face s a

theorem face_around (p : Vector3) (s : Side) (a : Axis) : (around p).face s a = p.along a := by
  cases s <;> rfl

theorem face_cover (b : Bounds) (p : Vector3) (s : Side) (a : Axis) :
    (b.cover p).face s a = s.extreme (b.face s a) (p.along a) := by
  cases s <;> cases a <;> rfl

theorem fits_around (hp : p.Defined) : (around p).Fits [p] where
  keeps := by
    intro q hq s a
    rw [List.mem_singleton.mp hq, face_around]
    exact s.keeps_refl (hp a)
  touches s a := ⟨p, List.mem_singleton_self p, (face_around p s a).symm⟩

/-- **One more point** is covered, and the box fits as before. -/
theorem Fits.cover (h : b.Fits ps) (hps : ∀ q ∈ ps, q.Defined) (hp : p.Defined) :
    (b.cover p).Fits (ps ++ [p]) := by
  have hsides : ∀ (s : Side) (a : Axis),
      (b.cover p).face s a = b.face s a ∧ s.Keeps (b.face s a) (p.along a) ∨
        (b.cover p).face s a = p.along a ∧ s.Keeps (p.along a) (b.face s a) := by
    intro s a
    obtain ⟨q, hq, htouch⟩ := h.touches s a
    have hside : (b.face s a).isNaN = false := htouch ▸ hps q hq a
    rw [face_cover]
    exact s.extreme_cases hside (hp a)
  constructor
  · intro q hq s a
    rcases List.mem_append.mp hq with hq | hq
    · have hkept := h.keeps q hq s a
      obtain ⟨hstays, -⟩ | ⟨hmoves, hout⟩ := hsides s a
      · rwa [hstays]
      · rw [hmoves]
        exact s.keeps_trans hout hkept
    · rw [List.mem_singleton.mp hq]
      obtain ⟨hstays, hin⟩ | ⟨hmoves, -⟩ := hsides s a
      · rwa [hstays]
      · rw [hmoves]
        exact s.keeps_refl (hp a)
  · intro s a
    obtain ⟨hstays, -⟩ | ⟨hmoves, -⟩ := hsides s a
    · obtain ⟨q, hq, htouch⟩ := h.touches s a
      exact ⟨q, List.mem_append_left _ hq, htouch.trans hstays.symm⟩
    · exact ⟨p, List.mem_append_right _ (List.mem_singleton_self p), hmoves.symm⟩

theorem Fits.foldl (h : b.Fits qs) (hqs : ∀ q ∈ qs, q.Defined) (hps : ∀ q ∈ ps, q.Defined) :
    (ps.foldl Bounds.cover b).Fits (qs ++ ps) := by
  induction ps generalizing b qs with
  | nil => rwa [List.append_nil]
  | cons p ps ih =>
    obtain ⟨hp, hrest⟩ := List.forall_mem_cons.mp hps
    have hcovered : ∀ q ∈ qs ++ [p], q.Defined :=
      List.forall_mem_append.mpr ⟨hqs, List.forall_mem_singleton.mpr hp⟩
    rw [List.append_cons, List.foldl_cons]
    exact ih (h.cover hqs hp) hcovered hrest

/-- **The box** of a list of points fits them. -/
theorem fits_of_ofPoints? (hps : ∀ q ∈ ps, q.Defined) (h : ofPoints? ps = some b) :
    b.Fits ps := by
  cases ps with
  | nil => exact nomatch h
  | cons p ps =>
    obtain ⟨hp, hrest⟩ := List.forall_mem_cons.mp hps
    obtain rfl := Option.some.inj h
    exact (fits_around hp).foldl (List.forall_mem_singleton.mpr hp) hrest

theorem ofPoints?_eq_none_iff : ofPoints? ps = none ↔ ps = [] := by
  cases ps with
  | nil => exact iff_of_true rfl rfl
  | cons p ps => exact iff_of_false nofun nofun

theorem Fits.encloses (h : b.Fits ps) {q : Vector3} (hq : q ∈ ps) : b.Encloses q :=
  fun a => ⟨h.keeps q hq .low a, h.keeps q hq .high a⟩

/-! ### Boxes of the same points -/

/-- Boxes with equal sides are equal. -/
theorem beq_of_faces (h : ∀ s a, (b.face s a == c.face s a) = true) : (b == c) = true := by
  have hcorners : ∀ v w : Vector3, (∀ a, (v.along a == w.along a) = true) → (v == w) = true := by
    intro v w hvw
    show (v.x == w.x && (v.y == w.y && v.z == w.z)) = true
    rw [show (v.x == w.x) = true from hvw .x, show (v.y == w.y) = true from hvw .y,
      show (v.z == w.z) = true from hvw .z]
    rfl
  show (b.low == c.low && b.high == c.high) = true
  rw [hcorners b.low c.low (h .low), hcorners b.high c.high (h .high)]
  rfl

/-- A side that touches one of the points is kept by all sides that keep them. -/
theorem Fits.keeps_face (hb : b.Fits ps) (hc : c.Fits qs) (h : ∀ q ∈ qs, q ∈ ps) (s : Side)
    (a : Axis) : s.Keeps (b.face s a) (c.face s a) := by
  obtain ⟨q, hq, htouch⟩ := hc.touches s a
  rw [← htouch]
  exact hb.keeps q (h q hq) s a

/-- **Boxes that fit the same points** are equal. -/
theorem Fits.beq (hb : b.Fits ps) (hc : c.Fits qs) (h : ∀ q, q ∈ ps ↔ q ∈ qs) :
    (b == c) = true := by
  refine beq_of_faces fun s a => ?_
  have hout := hb.keeps_face hc (fun q => (h q).mpr) s a
  have hin := hc.keeps_face hb (fun q => (h q).mp) s a
  cases s with
  | low => exact Single.beq_of_le_of_le hout hin
  | high => exact Single.beq_of_le_of_le hin hout

theorem ofPoints?_beq (hps : ∀ q ∈ ps, q.Defined) (h : ∀ q, q ∈ ps ↔ q ∈ qs) :
    (ofPoints? ps == ofPoints? qs) = true := by
  have hqs : ∀ q ∈ qs, q.Defined := fun q hq => hps q ((h q).mpr hq)
  cases ps with
  | nil =>
    obtain rfl : qs = [] := List.eq_nil_iff_forall_not_mem.mpr fun q hq =>
      List.not_mem_nil ((h q).mpr hq)
    rfl
  | cons p ps =>
    cases qs with
    | nil => exact absurd ((h p).mp List.mem_cons_self) List.not_mem_nil
    | cons q qs =>
      exact (fits_of_ofPoints? hps rfl).beq (fits_of_ofPoints? hqs rfl) h

end Bounds

/-! ### Pictures -/

namespace Picture

variable {p : Picture} {q : Vector3}

/-- The point is an end of a segment, or the anchor or the tip of a leaf. -/
def Draws (p : Picture) (q : Vector3) : Prop :=
  (∃ s ∈ p.segments, q = s.start ∨ q = s.finish) ∨ ∃ l ∈ p.leaves, q = l.anchor ∨ q = l.tip

theorem mem_points_iff : q ∈ p.points ↔ p.Draws q := by
  simp only [points, Draws, List.mem_append, List.mem_flatMap, List.mem_cons, List.not_mem_nil,
    or_false]

theorem points_eq_nil_iff : p.points = [] ↔ p.segments = [] ∧ p.leaves = [] := by
  have hsegments : ∀ ss : List Segment, ss.flatMap (fun s => [s.start, s.finish]) = [] ↔ ss = [] := by
    rintro (- | ⟨s, ss⟩) <;> simp
  have hleaves : ∀ ls : List Leaf, ls.flatMap (fun l => [l.anchor, l.tip]) = [] ↔ ls = [] := by
    rintro (- | ⟨l, ls⟩) <;> simp
  rw [points, List.append_eq_nil_iff, hsegments, hleaves]

/-- The order of segments and leaves does not matter to what is drawn. -/
theorem draws_withGeometry {segments : List Segment} {leaves : List Leaf}
    (hsegments : segments.Perm p.segments) (hleaves : leaves.Perm p.leaves) :
    (p.withGeometry segments leaves).Draws q ↔ p.Draws q := by
  simp only [Draws, withGeometry, hsegments.mem_iff, hleaves.mem_iff]

/-- **The box of a picture** is the least one around it.  If all points of a picture have
numbers for coordinates,

* there is no box exactly if there is no segment and no leaf;
* the box encloses both ends of every segment, and the anchor and the tip of every leaf;
* the six coordinates of its corners are coordinates of such points, and every box that
  encloses these points encloses the corners;
* in another order the segments and the leaves have an equal box. -/
theorem encloses_bounds? (h : ∀ q, p.Draws q → q.Defined) :
    (p.bounds? = none ↔ p.segments = [] ∧ p.leaves = []) ∧
    (∀ b, p.bounds? = some b →
      (∀ q, p.Draws q → b.Encloses q) ∧
      (∀ a, (∃ q, p.Draws q ∧ q.along a = b.low.along a) ∧
        ∃ q, p.Draws q ∧ q.along a = b.high.along a) ∧
      ∀ c : Bounds, (∀ q, p.Draws q → c.Encloses q) → c.Encloses b.low ∧ c.Encloses b.high) ∧
    ∀ segments leaves, segments.Perm p.segments → leaves.Perm p.leaves →
      ((p.withGeometry segments leaves).bounds? == p.bounds?) = true := by
  have hpoints : ∀ q ∈ p.points, q.Defined := fun q hq => h q (mem_points_iff.mp hq)
  refine ⟨?_, ?_, ?_⟩
  · rw [bounds?, Bounds.ofPoints?_eq_none_iff, points_eq_nil_iff]
  · intro b hb
    have hfits : b.Fits p.points := Bounds.fits_of_ofPoints? hpoints hb
    have htouches : ∀ (s : Side) (a : Axis), ∃ q, p.Draws q ∧ q.along a = b.face s a := by
      intro s a
      obtain ⟨q, hq, htouch⟩ := hfits.touches s a
      exact ⟨q, mem_points_iff.mp hq, htouch⟩
    have hcorners : ∀ a, (∃ q, p.Draws q ∧ q.along a = b.low.along a) ∧
        ∃ q, p.Draws q ∧ q.along a = b.high.along a :=
      fun a => ⟨htouches .low a, htouches .high a⟩
    refine ⟨fun q hq => hfits.encloses (mem_points_iff.mpr hq), hcorners,
      fun c hc => ⟨fun a => ?_, fun a => ?_⟩⟩
    · obtain ⟨⟨q, hq, htouch⟩, -⟩ := hcorners a
      rw [← htouch]
      exact hc q hq a
    · obtain ⟨-, q, hq, htouch⟩ := hcorners a
      rw [← htouch]
      exact hc q hq a
  · intro segments leaves hsegments hleaves
    refine Bounds.ofPoints?_beq (fun q hq => ?_) fun q => ?_
    · exact h q ((draws_withGeometry hsegments hleaves).mp (mem_points_iff.mp hq))
    · rw [mem_points_iff, mem_points_iff, draws_withGeometry hsegments hleaves]

/-- A segment that does not end and a leaf above it.  In the other order a side of the box holds
the other zero. -/
theorem encloses_bounds?_endless :
    let below : Segment := ⟨⟨-1, 0, 0⟩, ⟨0, 3, -0⟩, 1⟩
    let beyond : Segment := ⟨⟨0, 3, -0⟩, ⟨Single.infinity, 3, 0⟩, 1⟩
    let leaf : Leaf := ⟨⟨0, 3, -0⟩, Rotation.identity, 2, 3, 2, none⟩
    let p := standard.withGeometry [below, beyond] [leaf]
    let b : Bounds := ⟨⟨-1, 0, 0⟩, ⟨Single.infinity, 5, 0⟩⟩
    (∀ q, p.Draws q → q.Defined) ∧ p.bounds? = some b ∧ (∀ q, p.Draws q → b.Encloses q) ∧
      ((p.withGeometry [beyond, below] [leaf]).bounds? == some b) = true ∧
      (p.withGeometry [beyond, below] [leaf]).bounds? ≠ some b := by
  intro below beyond leaf p b
  have hdefined : ∀ q, p.Draws q → q.Defined := by
    intro q hq
    have hnumbers : ∀ q ∈ p.points,
        q.x.isNaN = false ∧ q.y.isNaN = false ∧ q.z.isNaN = false := by decide +kernel
    obtain ⟨hx, hy, hz⟩ := hnumbers q (mem_points_iff.mpr hq)
    intro a
    cases a with
    | x => exact hx
    | y => exact hy
    | z => exact hz
  obtain ⟨-, hbox, horder⟩ := encloses_bounds? hdefined
  have hb : p.bounds? = some b := by decide +kernel
  have hequal := horder [beyond, below] [leaf] (.swap below beyond []) (.refl _)
  rw [hb] at hequal
  exact ⟨hdefined, hb, (hbox b hb).1, hequal, by decide +kernel⟩

end Picture

end TurtleTree
