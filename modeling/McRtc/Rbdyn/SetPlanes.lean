import McRtc.Rbdyn.PolygonPlanes

/-!
# Registering the planes of a polygon

`set_planes` (`polygon_utils.cpp`, lines 93-125) resets a `CoMIncPlaneConstr` and adds
each plane whose normal has norm above one half, under the plane's index in the list.
When there is a speed for every plane and a normal derivative for every speed, each
plane is added with its speed and normal derivative and the moving gains; otherwise with
the static gains. The constraint then updates its plane count. The index is a `size_t`
passed through `static_cast<int>`, which keeps indices below `2 ^ 31`.

`CoMIncPlaneConstr` belongs to the Tasks library and is not among the modelled sources;
it is modelled by the list of `addPlane` calls since its last `reset`, and the count its
`updateNrPlanes` last recorded.

On the planes `planes_from_polygon` builds for a closed ring of `n` vertices, the
registered planes are those of the edges from vertex `j - 1` to vertex `j`, for
`j = 1, ..., n - 1`, under the ids `1, ..., n - 1`: the zero plane of the first
iteration is dropped by the filter, and the closing edge from the last vertex back to
the first has no plane.
-/

namespace McRtc

variable {K : Type} [LinearOrderedField K]

/-- The arguments of one `addPlane` call: the id, normal and offset, the distances `di`
and `ds`, the damping, the speed and normal derivative when the call gives them, and the
damping offset. -/
structure PlaneEntry (K : Type) where
  planeId : ℤ
  normal : Vector3 K
  offset : K
  di : K
  ds : K
  damping : K
  motion : Option (Vector3 K × Vector3 K)
  dampingOff : K

/-- The plane an entry describes. -/
def PlaneEntry.plane (entry : PlaneEntry K) : Plane K := ⟨entry.normal, entry.offset⟩

/-- `tasks::qp::CoMIncPlaneConstr`: the planes added since the last reset, and the count
`updateNrPlanes` last recorded. -/
structure CoMIncPlaneConstr (K : Type) where
  planes : List (PlaneEntry K)
  nrPlanes : ℕ

namespace CoMIncPlaneConstr

/-- `reset()`. -/
def reset (constr : CoMIncPlaneConstr K) : CoMIncPlaneConstr K := { constr with planes := [] }

/-- `addPlane(...)`, with or without the speed and normal derivative. -/
def addPlane (constr : CoMIncPlaneConstr K) (entry : PlaneEntry K) : CoMIncPlaneConstr K :=
  { constr with planes := constr.planes ++ [entry] }

/-- `updateNrPlanes()`. -/
def updateNrPlanes (constr : CoMIncPlaneConstr K) : CoMIncPlaneConstr K :=
  { constr with nrPlanes := constr.planes.length }

end CoMIncPlaneConstr

/-- `static_cast<int>` of a `size_t`: the residue modulo `2 ^ 32` in `[-2 ^ 31, 2 ^ 31)`. -/
def intCast (i : ℕ) : ℤ := Int.bmod i (2 ^ 32)

/-- An index below `2 ^ 31` is cast to itself. -/
theorem intCast_of_lt {i : ℕ} (small : i < 2 ^ 31) : intCast i = i := by
  rw [intCast, Int.bmod_pos _ _ (by omega)]
  omega

/-- The `addPlane` call of the branch with speeds, for plane `i`. -/
def movingEntry (speeds normalsDots : List (Vector3 K)) (i : ℕ) (plane : Plane K) :
    PlaneEntry K :=
  ⟨intCast i, plane.normal, plane.offset, 5 / 100, 1 / 100, 1 / 10,
    some (speeds.getD i 0, normalsDots.getD i 0), 0⟩

/-- The `addPlane` call of the branch without speeds, for plane `i`. -/
def staticEntry (i : ℕ) (plane : Plane K) : PlaneEntry K :=
  ⟨intCast i, plane.normal, plane.offset, 4 / 100, 1 / 100, 1 / 100, none, 0⟩

/-- A plane the loops keep: its normal has norm above one half. -/
def kept (root : SquareRoot K) (plane : Plane K) : Bool := 1 / 2 < plane.normal.norm root

/-- The loop of either branch, from index `i` on: a kept plane is added with the entry
its branch builds. -/
def registerPlanes (root : SquareRoot K) (entry : ℕ → Plane K → PlaneEntry K) :
    CoMIncPlaneConstr K → ℕ → List (Plane K) → CoMIncPlaneConstr K
  | constr, _, [] => constr
  | constr, i, plane :: rest =>
    registerPlanes root entry (if kept root plane then constr.addPlane (entry i plane) else constr)
      (i + 1) rest

/-- `set_planes`. -/
def setPlanes (root : SquareRoot K) (planes : List (Plane K)) (constr : CoMIncPlaneConstr K)
    (speeds normalsDots : List (Vector3 K)) : CoMIncPlaneConstr K :=
  let constr := constr.reset
  let constr :=
    if speeds.length ≠ 0 ∧ normalsDots.length = speeds.length ∧ planes.length = speeds.length then
      registerPlanes root (movingEntry speeds normalsDots) constr 0 planes
    else registerPlanes root staticEntry constr 0 planes
  constr.updateNrPlanes

/-- An entry builder records the plane it is given under the `int` of its index; both
branches' builders do. -/
def Records (entry : ℕ → Plane K → PlaneEntry K) : Prop :=
  ∀ i plane, (entry i plane).planeId = intCast i ∧ (entry i plane).plane = plane

/-- The branch with speeds registers each plane under its index. -/
theorem movingEntry_records (speeds normalsDots : List (Vector3 K)) :
    Records (movingEntry speeds normalsDots) := fun _ _ => ⟨by simp [movingEntry], rfl⟩

/-- The branch without speeds registers each plane under its index. -/
theorem staticEntry_records : Records (K := K) staticEntry := fun _ _ => ⟨by simp [staticEntry], rfl⟩

/-- The entries of the kept planes, each built under its index from `i` on. -/
def registered (root : SquareRoot K) (entry : ℕ → Plane K → PlaneEntry K) (i : ℕ)
    (planes : List (Plane K)) : List (PlaneEntry K) :=
  ((planes.enumFrom i).filter fun indexed => kept root indexed.2).map
    fun indexed => entry indexed.1 indexed.2

/-- The loop adds the entries of the kept planes after the planes already there.
Induction on the planes: each step adds the current plane's entry or nothing. -/
theorem registerPlanes_planes (root : SquareRoot K) (entry : ℕ → Plane K → PlaneEntry K)
    (constr : CoMIncPlaneConstr K) (i : ℕ) (planes : List (Plane K)) :
    (registerPlanes root entry constr i planes).planes =
      constr.planes ++ registered root entry i planes := by
  induction planes generalizing constr i with
  | nil => simp [registerPlanes, registered]
  | cons plane rest inductionHypothesis =>
    rw [registerPlanes, inductionHypothesis]
    by_cases keep : kept root plane <;>
      simp [registered, keep, CoMIncPlaneConstr.addPlane, List.filter_cons]

/-- `set_planes` leaves exactly the entries of the kept planes, built by the branch its
arguments select, and records their number. -/
theorem setPlanes_spec (root : SquareRoot K) (planes : List (Plane K))
    (constr : CoMIncPlaneConstr K) (speeds normalsDots : List (Vector3 K)) :
    (setPlanes root planes constr speeds normalsDots).planes =
        (if speeds.length ≠ 0 ∧ normalsDots.length = speeds.length ∧
            planes.length = speeds.length then
          registered root (movingEntry speeds normalsDots) 0 planes
        else registered root staticEntry 0 planes) ∧
      (setPlanes root planes constr speeds normalsDots).nrPlanes =
        (setPlanes root planes constr speeds normalsDots).planes.length := by
  refine ⟨?_, rfl⟩
  unfold setPlanes
  split <;> simp [CoMIncPlaneConstr.updateNrPlanes, registerPlanes_planes,
    CoMIncPlaneConstr.reset]

/-- Whichever branch runs, `set_planes` registers the kept planes under an entry builder
that records them. -/
theorem setPlanes_registered (root : SquareRoot K) (planes : List (Plane K))
    (constr : CoMIncPlaneConstr K) (speeds normalsDots : List (Vector3 K)) :
    ∃ entry, Records entry ∧
      (setPlanes root planes constr speeds normalsDots).planes = registered root entry 0 planes ∧
      (setPlanes root planes constr speeds normalsDots).nrPlanes =
        (registered root entry 0 planes).length := by
  obtain ⟨planesEq, count⟩ := setPlanes_spec root planes constr speeds normalsDots
  rw [count, planesEq]
  split
  · exact ⟨_, movingEntry_records speeds normalsDots, rfl, rfl⟩
  · exact ⟨_, staticEntry_records, rfl, rfl⟩

/-! ## On a closed ring -/

/-- The consecutive vertices of the ring, apart from the closing pair, are distinct. -/
def ConsecutiveDistinct (vertices : List (Coordinate K)) : Prop :=
  ∀ j, 1 ≤ j → j < vertices.length → vertex vertices j ≠ vertex vertices (j - 1)

section ClosedRing

variable (root : SquareRoot K) {vertices : List (Coordinate K)}
  (distinct : ConsecutiveDistinct vertices)

omit distinct in
/-- The zero plane of the first iteration is dropped. -/
theorem zero_not_kept : kept root (⟨0, 0⟩ : Plane K) = false := by
  simp [kept, Vector3.norm, Vector3.squaredNorm, root.sqrt_zero]

include distinct

/-- Every plane of a proper edge of the ring is kept. -/
theorem ringPlanes_kept {plane : Plane K} (member : plane ∈ ringPlanes root vertices) :
    kept root plane = true := by
  obtain ⟨j, within, rfl⟩ := List.mem_map.mp member
  have bounds := List.mem_range'_1.mp within
  simp [kept, planeThrough_norm_eq_one root (distinct j bounds.1 (by omega))]
  norm_num

/-- What the loop registers from the planes of a closed ring: the plane of each edge
from vertex `j - 1` to vertex `j` under index `j`, for `j = 1, ..., n - 1`. -/
theorem registered_closedRing (entry : ℕ → Plane K → PlaneEntry K) :
    registered root entry 0 (⟨0, 0⟩ :: ringPlanes root vertices) =
      ((ringPlanes root vertices).enumFrom 1).map fun indexed => entry indexed.1 indexed.2 := by
  rw [registered, List.enumFrom_cons, List.filter_cons, zero_not_kept root]
  simp only [Bool.false_eq_true, ↓reduceIte]
  rw [List.filter_eq_self.mpr fun indexed member =>
    ringPlanes_kept root distinct (List.snd_mem_of_mem_enumFrom member)]

/-- The entry the loop registers at position `k` on a closed ring: the plane of the edge
from vertex `k` to vertex `k + 1`, under index `k + 1`. -/
theorem registered_closedRing_getElem {entry : ℕ → Plane K → PlaneEntry K} (records : Records entry)
    {k : ℕ} (listed : k < (registered root entry 0 (⟨0, 0⟩ :: ringPlanes root vertices)).length) :
    (registered root entry 0 (⟨0, 0⟩ :: ringPlanes root vertices))[k].planeId = intCast (k + 1) ∧
      (registered root entry 0 (⟨0, 0⟩ :: ringPlanes root vertices))[k].plane =
        planeThrough root (vertex vertices (k + 1)) (vertex vertices k) := by
  rw [List.getElem_of_eq (registered_closedRing root distinct entry) listed]
  simp only [List.getElem_map, List.getElem_enumFrom, ringPlanes, List.getElem_range', records _ _,
    Nat.one_mul, Nat.add_comm 1 k, Nat.add_sub_cancel, and_self]

end ClosedRing

/-- On a closed ring of `n` vertices whose consecutive vertices are distinct, `set_planes`
applied to what `planes_from_polygon` returns registers `n - 1` planes, with or without
speeds: the one at position `k` has id `k + 1` and spans the edge from vertex `k` to
vertex `k + 1`. No plane is registered for the closing edge. -/
theorem setPlanes_ring_edges (root : SquareRoot K) (seq : CoordinateSequence K)
    (vertices : List (Coordinate K)) (ring : seq.coords = closedRing vertices)
    (nonempty : 1 ≤ vertices.length) (small : vertices.length ≤ 2 ^ 31)
    (distinct : ConsecutiveDistinct vertices) :
    ∃ planes, planesFromPolygon root (.polygon seq) = some planes ∧
      ∀ constr speeds normalsDots,
        (setPlanes root planes constr speeds normalsDots).nrPlanes = vertices.length - 1 ∧
        ∀ k (listed : k < (setPlanes root planes constr speeds normalsDots).planes.length),
          (setPlanes root planes constr speeds normalsDots).planes[k].planeId = k + 1 ∧
          (setPlanes root planes constr speeds normalsDots).planes[k].plane.Spans
            (vertex vertices k) (vertex vertices (k + 1)) := by
  refine ⟨_, planesFromPolygon_closedRing root ring nonempty, fun constr speeds normalsDots => ?_⟩
  obtain ⟨entry, records, planesEq, count⟩ :=
    setPlanes_registered root (⟨0, 0⟩ :: ringPlanes root vertices) constr speeds normalsDots
  have length : (registered root entry 0 (⟨0, 0⟩ :: ringPlanes root vertices)).length =
      vertices.length - 1 := by
    rw [registered_closedRing root distinct]
    simp [ringPlanes]
  refine ⟨count.trans length, fun k listed => ?_⟩
  have inside : k + 1 < vertices.length := by rw [planesEq] at listed; omega
  obtain ⟨planeId, plane⟩ := registered_closedRing_getElem root distinct records (by rwa [← planesEq])
  rw [List.getElem_of_eq planesEq, planeId, plane, intCast_of_lt (by omega)]
  refine ⟨rfl, planeThrough_spans root (distinct (k + 1) (by omega) inside)⟩

/-- The unit square, clockwise from the origin. -/
def square [Zero K] [One K] : List (Coordinate K) := [⟨0, 0⟩, ⟨0, 1⟩, ⟨1, 1⟩, ⟨1, 0⟩]

/-- The closed exterior ring of the square. -/
def squareRing [Zero K] [One K] : CoordinateSequence K :=
  ⟨closedRing square, by simp [closedRing, square]⟩

/-- The square's consecutive vertices are distinct. -/
theorem square_consecutiveDistinct : ConsecutiveDistinct (square (K := K)) := by
  intro j started inside
  simp only [square, List.length_cons, List.length_nil] at inside
  interval_cases j <;> simp [square, vertex]

/-- The square registers one plane per edge but the closing one. -/
theorem setPlanes_ring_edges_square :
    (squareRing (K := ℝ)).coords = closedRing square ∧ 1 ≤ (square (K := ℝ)).length ∧
      (square (K := ℝ)).length ≤ 2 ^ 31 ∧ ConsecutiveDistinct (square (K := ℝ)) ∧
      ∃ planes, planesFromPolygon ⟨Real.sqrt, Real.sqrt_nonneg, fun _ nonneg => Real.mul_self_sqrt nonneg⟩
          (.polygon squareRing) = some planes ∧
        ∀ constr speeds normalsDots,
          (setPlanes ⟨Real.sqrt, Real.sqrt_nonneg, fun _ nonneg => Real.mul_self_sqrt nonneg⟩ planes
            constr speeds normalsDots).nrPlanes = (square (K := ℝ)).length - 1 ∧
          ∀ k (listed : k < (setPlanes ⟨Real.sqrt, Real.sqrt_nonneg, fun _ nonneg => Real.mul_self_sqrt nonneg⟩
              planes constr speeds normalsDots).planes.length),
            (setPlanes ⟨Real.sqrt, Real.sqrt_nonneg, fun _ nonneg => Real.mul_self_sqrt nonneg⟩ planes
              constr speeds normalsDots).planes[k].planeId = k + 1 ∧
            (setPlanes ⟨Real.sqrt, Real.sqrt_nonneg, fun _ nonneg => Real.mul_self_sqrt nonneg⟩ planes
              constr speeds normalsDots).planes[k].plane.Spans (vertex square k) (vertex square (k + 1)) :=
  ⟨rfl, by decide, by decide, square_consecutiveDistinct,
    setPlanes_ring_edges _ squareRing square rfl (by decide) (by decide) square_consecutiveDistinct⟩

/-- The square has four edges, but `set_planes` registers three planes for its exterior
ring, with speeds or without. -/
theorem setPlanes_square (root : SquareRoot K) (constr : CoMIncPlaneConstr K)
    (speeds normalsDots : List (Vector3 K)) :
    ∃ planes, planesFromPolygon root (.polygon squareRing) = some planes ∧
      (setPlanes root planes constr speeds normalsDots).nrPlanes = 3 := by
  refine ⟨_, planesFromPolygon_closedRing root rfl (by simp [square]), ?_⟩
  obtain ⟨entry, -, -, count⟩ := setPlanes_registered root _ constr speeds normalsDots
  rw [count, registered_closedRing root square_consecutiveDistinct]
  simp [ringPlanes, square]

end McRtc
