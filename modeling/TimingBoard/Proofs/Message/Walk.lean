import Mathlib.Data.Finset.Card
import Mathlib.Data.Finset.Range
import Mathlib.Logic.Relation

namespace TimingBoard

/-! Depth-first walks over numbered places.

A walk enters each pending place that is still unvisited when its turn comes, and leaves a tree for
it.  The places of these trees are exactly the ones that can be reached, each once. -/

inductive PlaceTree where
  | node (place : Nat) (below : List PlaceTree)

namespace PlaceTree

def root : PlaceTree → Nat
  | .node place _ => place

mutual

/-- All places, parents first. -/
def places : PlaceTree → List Nat
  | .node place below => place :: placesEach below

def placesEach : List PlaceTree → List Nat
  | [] => []
  | tree :: rest => tree.places ++ placesEach rest

end

/-- Every tree edge is an edge, and siblings stand in increasing order. -/
inductive Grown (edge : Nat → Nat → Prop) : PlaceTree → Prop where
  | node {place : Nat} {below : List PlaceTree} (edges : ∀ tree ∈ below, edge place tree.root)
      (ordered : (below.map root).Pairwise (· < ·)) (each : ∀ tree ∈ below, tree.Grown edge) :
      Grown edge (.node place below)

/-- Below each place stand all places that follow it, in their order. -/
inductive Full (next : Nat → List Nat) : PlaceTree → Prop where
  | node {place : Nat} {below : List PlaceTree} (all : below.map root = next place)
      (each : ∀ tree ∈ below, tree.Full next) : Full next (.node place below)

end PlaceTree

open PlaceTree

/-- A walk from the visited places over the pending ones: the trees it leaves, and the places that
are visited afterwards. -/
inductive Walk (next : Nat → List Nat) :
    (visited pending : List Nat) → List PlaceTree → (after : List Nat) → Prop where
  | done {visited : List Nat} : Walk next visited [] [] visited
  | skip {visited pending after : List Nat} {trees : List PlaceTree} {place : Nat}
      (seen : place ∈ visited) (rest : Walk next visited pending trees after) :
      Walk next visited (place :: pending) trees after
  | enter {visited pending inner after : List Nat} {below trees : List PlaceTree} {place : Nat}
      (fresh : place ∉ visited) (deeper : Walk next (place :: visited) (next place) below inner)
      (rest : Walk next inner pending trees after) :
      Walk next visited (place :: pending) (.node place below :: trees) after

namespace Walk

variable {next : Nat → List Nat} {visited pending after : List Nat} {trees : List PlaceTree}

theorem unique {otherTrees : List PlaceTree} {otherAfter : List Nat}
    (walk : Walk next visited pending trees after)
    (other : Walk next visited pending otherTrees otherAfter) :
    trees = otherTrees ∧ after = otherAfter := by
  induction walk generalizing otherTrees otherAfter with
  | done =>
      cases other
      exact ⟨rfl, rfl⟩
  | skip seen _ ih =>
      cases other with
      | skip _ rest => exact ih rest
      | enter fresh => exact absurd seen fresh
  | enter fresh _ _ deeperIH restIH =>
      cases other with
      | skip seen => exact absurd seen fresh
      | enter _ deeper rest =>
          obtain ⟨rfl, rfl⟩ := deeperIH deeper
          obtain ⟨rfl, rfl⟩ := restIH rest
          exact ⟨rfl, rfl⟩

/-- Visited afterwards is what was visited before and what the trees hold. -/
theorem mem_after (walk : Walk next visited pending trees after) (place : Nat) :
    place ∈ after ↔ place ∈ visited ∨ place ∈ placesEach trees := by
  induction walk with
  | done => simp [placesEach]
  | skip _ _ ih => exact ih
  | enter _ _ _ deeperIH restIH =>
      simp only [restIH, deeperIH, placesEach, places, List.mem_cons, List.mem_append]
      grind

theorem mem_after_of_visited (walk : Walk next visited pending trees after) {place : Nat}
    (seen : place ∈ visited) : place ∈ after :=
  (walk.mem_after place).mpr (.inl seen)

theorem mem_after_of_pending (walk : Walk next visited pending trees after) :
    ∀ place ∈ pending, place ∈ after := by
  induction walk with
  | done => exact nofun
  | skip seen rest ih => exact List.forall_mem_cons.mpr ⟨rest.mem_after_of_visited seen, ih⟩
  | enter _ deeper rest _ ih =>
      refine List.forall_mem_cons.mpr ⟨?_, ih⟩
      exact rest.mem_after_of_visited (deeper.mem_after_of_visited List.mem_cons_self)

/-- No place is entered twice, and none that was visited before. -/
theorem nodup (walk : Walk next visited pending trees after) :
    (placesEach trees).Nodup ∧ ∀ place ∈ placesEach trees, place ∉ visited := by
  induction walk with
  | done => exact ⟨List.nodup_nil, nofun⟩
  | skip _ _ ih => exact ih
  | @enter visited _ inner _ below trees place fresh deeper rest deeperIH restIH =>
      obtain ⟨belowOnce, belowFresh⟩ := deeperIH
      obtain ⟨restOnce, restFresh⟩ := restIH
      -- The rest begins with all places of the first tree visited, so it enters none of them.
      have apart : ∀ other ∈ placesEach trees, other ∉ place :: placesEach below := by
        intro other member inTree
        refine restFresh other member ((deeper.mem_after other).mpr ?_)
        rcases List.mem_cons.mp inTree with rfl | inBelow
        · exact .inl List.mem_cons_self
        · exact .inr inBelow
      constructor
      · refine List.nodup_append.mpr ⟨List.nodup_cons.mpr ⟨?_, belowOnce⟩, restOnce, ?_⟩
        · exact fun again => belowFresh place again List.mem_cons_self
        · rintro first inTree second inRest rfl
          exact apart first inRest inTree
      · intro other member
        rcases List.mem_append.mp member with inTree | inRest
        · rcases List.mem_cons.mp inTree with rfl | inBelow
          · exact fresh
          · exact fun seen => belowFresh other inBelow (List.mem_cons_of_mem _ seen)
        · exact fun seen => restFresh other inRest
            (deeper.mem_after_of_visited (List.mem_cons_of_mem _ seen))

/-- Whatever follows an entered place is visited in the end. -/
theorem closed (walk : Walk next visited pending trees after) :
    ∀ place ∈ placesEach trees, ∀ other ∈ next place, other ∈ after := by
  induction walk with
  | done => exact nofun
  | skip _ _ ih => exact ih
  | enter _ deeper rest deeperIH restIH =>
      intro place member other follows
      rcases List.mem_append.mp member with inTree | inRest
      · refine rest.mem_after_of_visited ?_
        rcases List.mem_cons.mp inTree with rfl | inBelow
        · exact deeper.mem_after_of_pending other follows
        · exact deeperIH place inBelow other follows
      · exact restIH place inRest other follows

/-- An entered place can be reached from a pending one. -/
theorem reachable (walk : Walk next visited pending trees after) :
    ∀ place ∈ placesEach trees, ∃ start ∈ pending,
      Relation.ReflTransGen (fun above below => below ∈ next above) start place := by
  induction walk with
  | done => exact nofun
  | skip _ _ ih =>
      intro place member
      obtain ⟨start, waiting, path⟩ := ih place member
      exact ⟨start, List.mem_cons_of_mem _ waiting, path⟩
  | @enter _ _ _ _ _ _ entered _ _ _ deeperIH restIH =>
      intro place member
      rcases List.mem_append.mp member with inTree | inRest
      · refine ⟨entered, List.mem_cons_self, ?_⟩
        rcases List.mem_cons.mp inTree with rfl | inBelow
        · exact .refl
        · obtain ⟨start, follows, path⟩ := deeperIH place inBelow
          exact .head follows path
      · obtain ⟨start, waiting, path⟩ := restIH place inRest
        exact ⟨start, List.mem_cons_of_mem _ waiting, path⟩

theorem roots_sublist (walk : Walk next visited pending trees after) :
    (trees.map root).Sublist pending := by
  induction walk with
  | done => exact List.Sublist.slnil
  | skip _ _ ih => exact ih.cons _
  | enter _ _ _ _ ih => exact ih.cons_cons _

theorem grown (walk : Walk next visited pending trees after)
    (ordered : ∀ place, (next place).Pairwise (· < ·)) :
    ∀ tree ∈ trees, tree.Grown fun above below => below ∈ next above := by
  induction walk with
  | done => exact nofun
  | skip _ _ ih => exact ih
  | @enter _ _ _ _ below _ place _ deeper _ deeperIH restIH =>
      refine List.forall_mem_cons.mpr ⟨.node ?_ ?_ deeperIH, restIH⟩
      · exact fun tree member => deeper.roots_sublist.subset (List.mem_map_of_mem member)
      · exact (ordered place).sublist deeper.roots_sublist

/-- Full trees that share no place are left by the walk over their roots. -/
theorem of_full : (trees : List PlaceTree) → (visited : List Nat) →
    (∀ tree ∈ trees, tree.Full next) → (placesEach trees).Nodup →
    (∀ place ∈ placesEach trees, place ∉ visited) →
    ∃ after, Walk next visited (trees.map root) trees after
  | [], visited, _, _, _ => ⟨visited, .done⟩
  | .node place below :: rest, visited, full, once, fresh => by
      obtain ⟨treeFull, restFull⟩ := List.forall_mem_cons.mp full
      obtain ⟨all, each⟩ := treeFull
      obtain ⟨treeOnce, restOnce, apart⟩ := List.nodup_append.mp once
      obtain ⟨notBelow, belowOnce⟩ := List.nodup_cons.mp treeOnce
      have belowFresh : ∀ other ∈ placesEach below, other ∉ place :: visited := by
        intro other inBelow seen
        rcases List.mem_cons.mp seen with rfl | before
        · exact notBelow inBelow
        · exact fresh other (List.mem_append_left _ (List.mem_cons_of_mem _ inBelow)) before
      obtain ⟨inner, deeper⟩ := of_full below (place :: visited) each belowOnce belowFresh
      -- `inner` holds what was visited before and the places of the first tree, no others.
      have restFresh : ∀ other ∈ placesEach rest, other ∉ inner := by
        intro other inRest seen
        have apartFrom (entered : other ∈ place :: placesEach below) : False :=
          apart other entered other inRest rfl
        rcases (deeper.mem_after other).mp seen with before | inBelow
        · rcases List.mem_cons.mp before with rfl | earlier
          · exact apartFrom List.mem_cons_self
          · exact fresh other (List.mem_append_right _ inRest) earlier
        · exact apartFrom (List.mem_cons_of_mem _ inBelow)
      obtain ⟨after, walk⟩ := of_full rest inner restFull restOnce restFresh
      exact ⟨after, .enter (fresh place List.mem_cons_self) (all ▸ deeper) walk⟩

/-- A walk from nothing over one place enters exactly what can be reached from there. -/
theorem mem_places_iff_reachable {start : Nat} (walk : Walk next [] [start] trees after)
    (place : Nat) :
    place ∈ placesEach trees ↔
      Relation.ReflTransGen (fun above below => below ∈ next above) start place := by
  have entered (other : Nat) : other ∈ after ↔ other ∈ placesEach trees := by
    simp [walk.mem_after other]
  constructor
  · intro member
    obtain ⟨origin, waiting, path⟩ := walk.reachable place member
    obtain rfl := List.mem_singleton.mp waiting
    exact path
  · intro path
    induction path with
    | refl => exact (entered start).mp (walk.mem_after_of_pending start List.mem_cons_self)
    | tail _ follows ih => exact (entered _).mp (walk.closed _ ih _ follows)

end Walk

end TimingBoard
