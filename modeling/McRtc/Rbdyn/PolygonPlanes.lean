import McRtc.Rbdyn.Plane

/-!
# The planes of a polygon

`planes_from_polygon` (`polygon_utils.cpp`, lines 62-91) casts a GEOS geometry to a
polygon, reads the coordinate sequence of its exterior ring, and for
`i < seq->size() - 1` builds the plane of the edge from `getAt(prev)` to `getAt(i)`,
where `prev` is `i - 1`, or `seq->size() - 1` when `i = 0`.

Sizes and indices are `size_t`: `sizeSub` is its wrapping subtraction, and a coordinate
sequence carries the bound of that type. A `getAt` at an index beyond the sequence is
undefined behaviour; the loop then returns `none`, so `some` means that every access of
the run was in bounds.

A GEOS polygon's exterior ring is closed: its last coordinate repeats the first. On such
a ring the first iteration pairs the first coordinate with itself and yields the zero
plane, and the closing edge from the last vertex back to the first is never built. The
other planes face into the polygon when it is convex and goes clockwise.
-/

namespace McRtc

variable {K : Type}

/-- A GEOS coordinate sequence; its size is a `size_t`. -/
structure CoordinateSequence (K : Type) where
  coords : List (Coordinate K)
  size_lt : coords.length < 2 ^ 64

/-- A GEOS geometry, as far as `dynamic_cast<Polygon*>` tells geometries apart: a
polygon, given by the coordinates of its exterior ring, or anything else. -/
inductive Geometry (K : Type) where
  | polygon (exteriorRing : CoordinateSequence K)
  | other

/-- The coordinate the defaults fall back on. -/
def Coordinate.origin [Zero K] : Coordinate K := ⟨0, 0⟩

namespace CoordinateSequence

/-- `size()`. -/
def size (seq : CoordinateSequence K) : ℕ := seq.coords.length

/-- `getAt(i)`; an index at or beyond the size has no coordinate. -/
def getAt (seq : CoordinateSequence K) (i : ℕ) : Option (Coordinate K) := seq.coords[i]?

/-- The coordinate at `i`, total, for statements about in-bounds indices. -/
def coord [Zero K] (seq : CoordinateSequence K) (i : ℕ) : Coordinate K := seq.coords.getD i Coordinate.origin

/-- An index in range reads its coordinate. -/
theorem getAt_of_lt [Zero K] (seq : CoordinateSequence K) {i : ℕ} (inside : i < seq.size) :
    seq.getAt i = some (seq.coord i) := by
  rw [getAt, coord, List.getD_eq_getElem?_getD, List.getElem?_eq_getElem inside]
  rfl

/-- An index out of range reads nothing. -/
theorem getAt_of_le (seq : CoordinateSequence K) {i : ℕ} (outside : seq.size ≤ i) :
    seq.getAt i = none := by
  simpa [getAt, size] using outside

end CoordinateSequence

/-- `size_t` subtraction. -/
def sizeSub (a b : ℕ) : ℕ := (a + 2 ^ 64 - b) % 2 ^ 64

/-- Subtracting one from a positive `size_t` does not wrap. -/
theorem sizeSub_one {a : ℕ} (positive : 1 ≤ a) (bounded : a < 2 ^ 64) : sizeSub a 1 = a - 1 := by
  unfold sizeSub
  omega

/-- The index the loop pairs with `i`: the one before it, wrapping to the last. -/
def prevIndex (size i : ℕ) : ℕ := if i = 0 then sizeSub size 1 else i - 1

variable [LinearOrderedField K]

/-- One iteration of the loop. -/
def planeAt (root : SquareRoot K) (seq : CoordinateSequence K) (i : ℕ) : Option (Plane K) := do
  let p ← seq.getAt i
  let prev ← seq.getAt (prevIndex seq.size i)
  pure (planeThrough root p prev)

/-- The iterations from index `i` on, `remaining` of them, each pushing its plane. -/
def planesLoop (root : SquareRoot K) (seq : CoordinateSequence K) : ℕ → ℕ → Option (List (Plane K))
  | _, 0 => some []
  | i, remaining + 1 => do
    let plane ← planeAt root seq i
    let rest ← planesLoop root seq (i + 1) remaining
    pure (plane :: rest)

/-- `planes_from_polygon`. A geometry that is not a polygon gives no plane. -/
def planesFromPolygon (root : SquareRoot K) : Geometry K → Option (List (Plane K))
  | .other => some []
  | .polygon seq => planesLoop root seq 0 (sizeSub seq.size 1)

/-- The planes the loop builds when every access is in bounds. -/
def edgePlanes (root : SquareRoot K) (seq : CoordinateSequence K) (i remaining : ℕ) :
    List (Plane K) :=
  (List.range' i remaining).map fun j => planeThrough root (seq.coord j) (seq.coord (prevIndex seq.size j))

section Loop

variable (root : SquareRoot K) (seq : CoordinateSequence K)

/-- An iteration whose two indices are in bounds builds the plane of their coordinates. -/
theorem planeAt_of_lt {i : ℕ} (inside : i < seq.size) (before : prevIndex seq.size i < seq.size) :
    planeAt root seq i =
      some (planeThrough root (seq.coord i) (seq.coord (prevIndex seq.size i))) := by
  simp [planeAt, seq.getAt_of_lt inside, seq.getAt_of_lt before]

/-- A loop whose iterations all stay in bounds builds every edge plane, in order.
Induction on the remaining iterations: each one is in bounds, and its successor starts
one index later. -/
theorem planesLoop_of_lt {i remaining : ℕ} (inside : i + remaining ≤ seq.size)
    (before : ∀ j, i ≤ j → j < i + remaining → prevIndex seq.size j < seq.size) :
    planesLoop root seq i remaining = some (edgePlanes root seq i remaining) := by
  induction remaining generalizing i with
  | zero => rfl
  | succ remaining inductionHypothesis =>
    have current := planeAt_of_lt root seq (i := i) (by omega) (before i le_rfl (by omega))
    have rest := inductionHypothesis (i := i + 1) (by omega)
      (fun j later bound => before j (by omega) (by omega))
    simp [planesLoop, current, rest, edgePlanes, List.range'_succ]

omit [LinearOrderedField K] in
/-- Every index the loop pairs with an in-bounds index of a non-empty sequence is in
bounds. -/
theorem prevIndex_lt {j : ℕ} (positive : 1 ≤ seq.size) (inside : j < seq.size) :
    prevIndex seq.size j < seq.size := by
  unfold prevIndex
  split
  · rw [sizeSub_one positive seq.size_lt]
    omega
  · omega

/-- On a non-empty sequence every access is in bounds: the loop runs `size - 1` times
and returns the plane of each index with its predecessor. -/
theorem planesFromPolygon_of_pos (positive : 1 ≤ seq.size) :
    planesFromPolygon root (.polygon seq) = some (edgePlanes root seq 0 (seq.size - 1)) := by
  rw [planesFromPolygon, sizeSub_one positive seq.size_lt]
  exact planesLoop_of_lt root seq (by omega)
    (fun j _ bound => prevIndex_lt seq positive (by omega))

/-- The length of the result: one plane per iteration, `size - 1` of them. -/
theorem planesFromPolygon_length (positive : 1 ≤ seq.size) :
    ∃ planes, planesFromPolygon root (.polygon seq) = some planes ∧
      planes.length = seq.size - 1 :=
  ⟨_, planesFromPolygon_of_pos root seq positive, by simp [edgePlanes]⟩

end Loop

/-- A right triangle, clockwise from the origin. -/
def triangle [Zero K] [One K] : List (Coordinate K) := [⟨0, 0⟩, ⟨0, 1⟩, ⟨1, 0⟩]

/-- The exterior ring of the triangle: its vertices, and the first again. -/
def triangleRing [Zero K] [One K] : CoordinateSequence K := ⟨[⟨0, 0⟩, ⟨0, 1⟩, ⟨1, 0⟩, ⟨0, 0⟩], by simp⟩

/-- The triangle's ring of four coordinates gives three planes. -/
theorem planesFromPolygon_length_triangle :
    1 ≤ (triangleRing (K := ℝ)).size ∧
      ∃ planes, planesFromPolygon ⟨Real.sqrt, Real.sqrt_nonneg, fun _ nonneg => Real.mul_self_sqrt nonneg⟩
          (.polygon triangleRing) = some planes ∧ planes.length = (triangleRing (K := ℝ)).size - 1 :=
  ⟨by decide, planesFromPolygon_length _ _ (by decide)⟩

/-- The empty coordinate sequence, the exterior ring of an empty polygon. -/
def CoordinateSequence.empty : CoordinateSequence K := ⟨[], by simp⟩

/-- On the empty ring, `seq->size() - 1` wraps to `2 ^ 64 - 1` and the first iteration
reads `getAt(0)` from a sequence with no coordinate. -/
theorem planesFromPolygon_empty (root : SquareRoot K) :
    planesFromPolygon root (.polygon CoordinateSequence.empty) = none := by
  have wrapped : sizeSub (CoordinateSequence.empty (K := K)).size 1 = 2 ^ 64 - 2 + 1 :=
    (by decide : sizeSub 0 1 = 2 ^ 64 - 2 + 1)
  rw [planesFromPolygon, wrapped, planesLoop]
  simp [planeAt, CoordinateSequence.getAt, CoordinateSequence.empty]

/-! ## Closed rings -/

/-- The exterior ring GEOS stores for a polygon with these vertices: the first vertex is
repeated at the end. -/
def closedRing (vertices : List (Coordinate K)) : List (Coordinate K) :=
  vertices ++ vertices.take 1

/-- The vertex at `j`, total, for statements about in-bounds indices. -/
def vertex (vertices : List (Coordinate K)) (j : ℕ) : Coordinate K :=
  vertices.getD j Coordinate.origin

/-- The planes of the ring's edges from vertex `j - 1` to vertex `j`, for
`j = 1, ..., n - 1`: every edge but the closing one. -/
def ringPlanes (root : SquareRoot K) (vertices : List (Coordinate K)) : List (Plane K) :=
  (List.range' 1 (vertices.length - 1)).map fun j =>
    planeThrough root (vertex vertices j) (vertex vertices (j - 1))

section ClosedRing

variable (root : SquareRoot K) {seq : CoordinateSequence K} {vertices : List (Coordinate K)}
  (ring : seq.coords = closedRing vertices)
include ring

omit [LinearOrderedField K] in
/-- A closed ring has one coordinate more than its vertices. -/
theorem size_closedRing (nonempty : 1 ≤ vertices.length) : seq.size = vertices.length + 1 := by
  simp [CoordinateSequence.size, ring, closedRing, Nat.min_eq_left nonempty]

/-- The coordinates of a closed ring before the repeated one are its vertices. -/
theorem coord_closedRing {j : ℕ} (inside : j < vertices.length) :
    seq.coord j = vertex vertices j := by
  rw [CoordinateSequence.coord, ring, closedRing, List.getD_append _ _ _ _ inside, vertex]

/-- The repeated coordinate at the end of a closed ring is the first vertex. -/
theorem coord_closedRing_last (nonempty : 1 ≤ vertices.length) :
    seq.coord vertices.length = vertex vertices 0 := by
  obtain ⟨first, rest, rfl⟩ : ∃ first rest, vertices = first :: rest :=
    List.exists_cons_of_length_pos nonempty
  simp [CoordinateSequence.coord, ring, closedRing, vertex]

/-- On a closed ring the first iteration pairs the first vertex with its own repetition
and gives the zero plane; the others give the planes of the edges from vertex `j - 1` to
vertex `j`. The closing edge, from the last vertex back to the first, has no plane. -/
theorem planesFromPolygon_closedRing (nonempty : 1 ≤ vertices.length) :
    planesFromPolygon root (.polygon seq) = some (⟨0, 0⟩ :: ringPlanes root vertices) := by
  have size := size_closedRing ring nonempty
  obtain ⟨rest, length⟩ : ∃ rest, vertices.length = rest + 1 := ⟨vertices.length - 1, by omega⟩
  have count : seq.size - 1 = rest + 1 := by omega
  rw [planesFromPolygon_of_pos root seq (by omega), edgePlanes, count, List.range'_succ,
    List.map_cons]
  congr 2
  · have last : prevIndex seq.size 0 = vertices.length := by
      rw [prevIndex, if_pos rfl, size, sizeSub_one (by omega) (by rw [← size]; exact seq.size_lt)]
      rfl
    rw [last, coord_closedRing_last ring nonempty, coord_closedRing ring nonempty]
    exact planeThrough_self root _
  · rw [ringPlanes, length, Nat.add_sub_cancel]
    refine List.map_congr_left fun j member => ?_
    have within := List.mem_range'_1.mp member
    have before : prevIndex seq.size j = j - 1 := if_neg (by omega)
    rw [before, coord_closedRing ring (by omega), coord_closedRing ring (by omega)]

end ClosedRing

/-- Every vertex lies strictly to the right of every directed edge it is not an end of:
the vertices go around a strictly convex polygon clockwise. -/
def ClockwiseConvex (vertices : List (Coordinate K)) : Prop :=
  ∀ i < vertices.length, ∀ m < vertices.length, m ≠ i → m ≠ (i + 1) % vertices.length →
    cross (vertex vertices i) (vertex vertices ((i + 1) % vertices.length)) (vertex vertices m) < 0

/-- Convexity is checked vertex by vertex, edge by edge. -/
instance (vertices : List (Coordinate K)) : Decidable (ClockwiseConvex vertices) :=
  inferInstanceAs (Decidable (∀ i < vertices.length, ∀ m < vertices.length, _))

/-- On a ring of `n` vertices, the vertex after `j - 1` is `j`, for `j` from one on. -/
theorem succ_pred_mod {j n : ℕ} (started : 1 ≤ j) (inside : j < n) : (j - 1 + 1) % n = j := by
  rw [Nat.sub_add_cancel started, Nat.mod_eq_of_lt inside]

/-- The plane of an edge of a clockwise convex polygon: every vertex is on its
non-negative side, and exactly the edge's two ends are on the plane. -/
theorem ringPlane_faces_inward (root : SquareRoot K) {vertices : List (Coordinate K)}
    (convex : ClockwiseConvex vertices) {j : ℕ} (started : 1 ≤ j) (inside : j < vertices.length)
    (distinct : vertex vertices j ≠ vertex vertices (j - 1)) {m : ℕ} (other : m < vertices.length) :
    0 ≤ (planeThrough root (vertex vertices j) (vertex vertices (j - 1))).eval (vertex vertices m) ∧
      ((planeThrough root (vertex vertices j) (vertex vertices (j - 1))).eval
          (vertex vertices m) = 0 ↔ m + 1 = j ∨ m = j) := by
  have length := edgeLength_pos root distinct
  by_cases onEdge : m + 1 = j ∨ m = j
  · have ends := planeThrough_eval_ends root distinct
    obtain rfl | rfl := onEdge
    · simp only [Nat.add_sub_cancel] at ends ⊢
      simp [ends.2]
    · simp [ends.1]
  · have next := succ_pred_mod started inside
    have right := convex (j - 1) (by omega) m other (by omega) (by rw [next]; omega)
    rw [next] at right
    have positive : 0 < (planeThrough root (vertex vertices j) (vertex vertices (j - 1))).eval
        (vertex vertices m) := by
      rw [planeThrough_eval root distinct]
      exact div_pos (neg_pos.mpr right) length
    exact ⟨positive.le, ⟨fun zero => absurd zero positive.ne', fun edge => absurd edge onEdge⟩⟩

/-- The plane at index `j` of the loop's result on a closed ring. -/
theorem closedRing_plane (root : SquareRoot K) {vertices : List (Coordinate K)} {j : ℕ}
    (listed : j < (⟨0, 0⟩ :: ringPlanes root vertices).length) :
    (⟨0, 0⟩ :: ringPlanes root vertices)[j] =
      if j = 0 then ⟨0, 0⟩ else planeThrough root (vertex vertices j) (vertex vertices (j - 1)) := by
  cases j with
  | zero => rfl
  | succ j => simp [ringPlanes, Nat.add_comm 1 j]

/-- The turn of a point with respect to a degenerate edge is zero. -/
theorem cross_self (o c : Coordinate K) : cross o o c = 0 := by
  simp [cross]

/-- Consecutive vertices of a clockwise strictly convex polygon of three vertices or more
are distinct: a third vertex is strictly to the right of the edge between them, which a
repeated point has no side of. -/
theorem ClockwiseConvex.vertex_ne_prev {vertices : List (Coordinate K)} (convex : ClockwiseConvex vertices)
    (three : 3 ≤ vertices.length) {j : ℕ} (started : 1 ≤ j) (inside : j < vertices.length) :
    vertex vertices j ≠ vertex vertices (j - 1) := by
  have next := succ_pred_mod started inside
  have third : ∃ m < vertices.length, m ≠ j - 1 ∧ m ≠ j := by
    by_cases last : j + 1 < vertices.length
    · exact ⟨j + 1, last, by omega, by omega⟩
    · exact ⟨0, by omega, by omega, by omega⟩
  obtain ⟨m, other, apart, notNext⟩ := third
  have right := convex (j - 1) (by omega) m other apart (by rw [next]; exact notNext)
  rw [next] at right
  intro same
  rw [same, cross_self] at right
  exact lt_irrefl 0 right

/-- For a clockwise strictly convex polygon, every plane that `planes_from_polygon`
returns after the first has a non-zero normal, and every plane of non-zero normal has
every vertex on its non-negative side, and exactly the two ends of its edge, the
coordinates at `j - 1` and `j`, on the plane. -/
theorem planesFromPolygon_faces_inward (root : SquareRoot K) (seq : CoordinateSequence K)
    (vertices : List (Coordinate K)) (ring : seq.coords = closedRing vertices)
    (three : 3 ≤ vertices.length) (convex : ClockwiseConvex vertices) :
    ∃ planes, planesFromPolygon root (.polygon seq) = some planes ∧
      (∀ j (listed : j < planes.length), j ≠ 0 → planes[j].normal ≠ 0) ∧
      ∀ j (listed : j < planes.length), planes[j].normal ≠ 0 →
        ∀ m (other : m < vertices.length),
          0 ≤ planes[j].eval vertices[m] ∧ (planes[j].eval vertices[m] = 0 ↔ m + 1 = j ∨ m = j) := by
  have inside : ∀ j, j < (⟨0, 0⟩ :: ringPlanes root vertices).length → j < vertices.length := by
    intro j listed
    simp [ringPlanes] at listed
    omega
  refine ⟨_, planesFromPolygon_closedRing root ring (by omega), fun j listed started => ?_,
    fun j listed facing m other => ?_⟩
  · have distinct := convex.vertex_ne_prev three (by omega) (inside j listed)
    rw [closedRing_plane root listed, if_neg started]
    intro zero
    have unit := planeThrough_unit root distinct
    rw [zero] at unit
    simp [Vector3.squaredNorm] at unit
  rw [closedRing_plane root listed] at facing ⊢
  have started : j ≠ 0 := fun zero => facing (by simp [zero])
  simp only [started, ↓reduceIte] at facing ⊢
  have distinct : vertex vertices j ≠ vertex vertices (j - 1) := fun same =>
    facing (by rw [same, planeThrough_self])
  have indexed : vertices[m] = vertex vertices m := (List.getD_eq_getElem _ _ other).symm
  rw [indexed]
  exact ringPlane_faces_inward root convex (by omega) (inside j listed) distinct other

/-- The triangle goes around clockwise and is strictly convex. -/
theorem triangle_clockwiseConvex : ClockwiseConvex (triangle (K := K)) := by
  intro i first m other apart notNext
  simp only [triangle, List.length_cons, List.length_nil] at first other notNext
  interval_cases i <;> interval_cases m <;> first | omega | norm_num [triangle, vertex, cross]

/-- The triangle's planes after the first are proper and face inward. -/
theorem planesFromPolygon_faces_inward_triangle :
    (triangleRing (K := ℝ)).coords = closedRing triangle ∧ 3 ≤ (triangle (K := ℝ)).length ∧
      ClockwiseConvex (triangle (K := ℝ)) ∧
      ∃ planes, planesFromPolygon ⟨Real.sqrt, Real.sqrt_nonneg, fun _ nonneg => Real.mul_self_sqrt nonneg⟩
          (.polygon triangleRing) = some planes ∧
        (∀ j (listed : j < planes.length), j ≠ 0 → planes[j].normal ≠ 0) ∧
        ∀ j (listed : j < planes.length), planes[j].normal ≠ 0 →
          ∀ m (other : m < (triangle (K := ℝ)).length),
            0 ≤ planes[j].eval triangle[m] ∧
              (planes[j].eval triangle[m] = 0 ↔ m + 1 = j ∨ m = j) :=
  ⟨rfl, by decide, triangle_clockwiseConvex,
    planesFromPolygon_faces_inward _ triangleRing triangle rfl (by decide)
      triangle_clockwiseConvex⟩

end McRtc
