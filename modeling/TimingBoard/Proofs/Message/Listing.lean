import TimingBoard.Proofs.Message.Rebuild
import TimingBoard.Proofs.Tree.Preorder

namespace TimingBoard

/-! Listing the nodes of a tree, and the tree that is rebuilt from such a list.

The nodes may be listed in any order that keeps siblings in theirs.  With distinct ids, every id has
one place in the list, and the places of a tree's nodes make up a full tree of the walk. -/

namespace TimingTree

open PlaceTree

/-- A tree's root as a message node. -/
def flat (tree : TimingTree) (id parent : Nat) : MessageNode :=
  ⟨id, tree.label, tree.time, parent, tree.comment.getD ""⟩

mutual

/-- The nodes of a tree, parents first.  `ids` numbers them by the child positions on the way from
the root, and `parent` is what the root names as its parent. -/
def listing (ids : List Nat → Nat) (parent : Nat) : TimingTree → List MessageNode
  | ⟨_, label, time, comment, children⟩ =>
      ⟨ids [], label, time, parent, comment.getD ""⟩ :: listingEach ids (ids []) 0 children

def listingEach (ids : List Nat → Nat) (parent position : Nat) :
    List TimingTree → List MessageNode
  | [] => []
  | tree :: rest =>
      tree.listing (fun path => ids (position :: path)) parent ++
        listingEach ids parent (position + 1) rest

end

mutual

/-- The places of a tree's nodes, given the place of each id. -/
def placed (place : Nat → Nat) (ids : List Nat → Nat) : TimingTree → PlaceTree
  | ⟨_, _, _, _, children⟩ => .node (place (ids [])) (placedEach place ids 0 children)

def placedEach (place : Nat → Nat) (ids : List Nat → Nat) (position : Nat) :
    List TimingTree → List PlaceTree
  | [] => []
  | tree :: rest =>
      tree.placed place (fun path => ids (position :: path)) ::
        placedEach place ids (position + 1) rest

end

mutual

/-- The nested form in which a tree arrives. -/
def sent (producer : String) : TimingTree → TimingTree
  | ⟨_, label, time, comment, children⟩ =>
      ⟨producer, label, time, some (comment.getD ""), sentEach producer children⟩

def sentEach (producer : String) : List TimingTree → List TimingTree
  | [] => []
  | tree :: rest => tree.sent producer :: sentEach producer rest

end

variable {place : Nat → Nat}

theorem listing_eq (tree : TimingTree) (ids : List Nat → Nat) (parent : Nat) :
    tree.listing ids parent =
      tree.flat (ids []) parent :: listingEach ids (ids []) 0 tree.children := by
  cases tree
  rfl

theorem root_placed (tree : TimingTree) (ids : List Nat → Nat) :
    (tree.placed place ids).root = place (ids []) := by
  cases tree
  rfl

mutual

theorem parent_of_mem_listing : (tree : TimingTree) → (ids : List Nat → Nat) → (parent : Nat) →
    ∀ node ∈ tree.listing ids parent,
      node = tree.flat (ids []) parent ∨ node.parent ∈ (tree.listing ids parent).map (·.id)
  | ⟨name, label, time, comment, children⟩, ids, parent => by
      rw [listing_eq]
      intro node member
      rcases List.mem_cons.mp member with top | inside
      · exact .inl top
      · refine .inr ?_
        rcases parent_of_mem_listingEach children ids (ids []) 0 node inside with below | deeper
        · exact below ▸ List.mem_cons_self
        · exact List.mem_cons_of_mem _ deeper

theorem parent_of_mem_listingEach : (trees : List TimingTree) → (ids : List Nat → Nat) →
    (parent position : Nat) → ∀ node ∈ listingEach ids parent position trees,
      node.parent = parent ∨ node.parent ∈ (listingEach ids parent position trees).map (·.id)
  | [], _, _, _ => nofun
  | tree :: rest, ids, parent, position => by
      intro node member
      rw [listingEach, List.map_append]
      rcases List.mem_append.mp member with first | later
      · rcases parent_of_mem_listing tree _ parent node first with rfl | inside
        · exact .inl rfl
        · exact .inr (List.mem_append_left _ inside)
      · rcases parent_of_mem_listingEach rest ids parent (position + 1) node later with
          below | inside
        · exact .inl below
        · exact .inr (List.mem_append_right _ inside)

end

/-- Outside its own ids a listing names only the parent of its root. -/
theorem filter_listing_eq_nil {tree : TimingTree} {ids : List Nat → Nat} {parent id : Nat}
    (other : id ≠ parent) (absent : id ∉ (tree.listing ids parent).map (·.id)) :
    (tree.listing ids parent).filter (·.parent == id) = [] := by
  refine List.filter_eq_nil_iff.mpr fun node member same => ?_
  obtain rfl := eq_of_beq same
  rcases parent_of_mem_listing tree ids parent node member with rfl | inside
  · exact other rfl
  · exact absent inside

theorem filter_listingEach_eq_nil {trees : List TimingTree} {ids : List Nat → Nat}
    {parent position id : Nat} (other : id ≠ parent)
    (absent : id ∉ (listingEach ids parent position trees).map (·.id)) :
    (listingEach ids parent position trees).filter (·.parent == id) = [] := by
  refine List.filter_eq_nil_iff.mpr fun node member same => ?_
  obtain rfl := eq_of_beq same
  rcases parent_of_mem_listingEach trees ids parent position node member with below | inside
  · exact other below
  · exact absent inside

theorem filter_listing_parent {tree : TimingTree} {ids : List Nat → Nat} {parent : Nat}
    (absent : parent ∉ (tree.listing ids parent).map (·.id)) :
    (tree.listing ids parent).filter (·.parent == parent) = [tree.flat (ids []) parent] := by
  rw [listing_eq] at absent ⊢
  obtain ⟨notTop, notBelow⟩ := not_or.mp (mt List.mem_cons.mpr absent)
  have below := filter_listingEach_eq_nil notTop notBelow
  rw [List.filter_cons_of_pos (by simp [flat])]
  exact congrArg _ below

/-- What names the parent of siblings is the siblings themselves. -/
theorem filter_listingEach_parent (ids : List Nat → Nat) (parent : Nat) :
    (position : Nat) → (trees : List TimingTree) →
    parent ∉ (listingEach ids parent position trees).map (·.id) →
    ((listingEach ids parent position trees).filter (·.parent == parent)).map (place ·.id) =
      (placedEach place ids position trees).map root
  | _, [], _ => rfl
  | position, tree :: rest, absent => by
      rw [listingEach, List.map_append] at absent
      obtain ⟨notFirst, notLater⟩ := not_or.mp (mt List.mem_append.mpr absent)
      rw [listingEach, placedEach, List.filter_append, filter_listing_parent notFirst,
        List.map_append, filter_listingEach_parent ids parent (position + 1) rest notLater]
      simp only [List.map_cons, root_placed]
      rfl

mutual

theorem places_placed (place : Nat → Nat) : (tree : TimingTree) → (ids : List Nat → Nat) →
    (parent : Nat) → (tree.placed place ids).places = (tree.listing ids parent).map (place ·.id)
  | ⟨_, _, _, _, children⟩, ids, _ => by
      rw [placed, places, listing, List.map_cons,
        placesEach_placedEach place children ids (ids []) 0]

theorem placesEach_placedEach (place : Nat → Nat) : (trees : List TimingTree) →
    (ids : List Nat → Nat) → (parent position : Nat) →
    placesEach (placedEach place ids position trees) =
      (listingEach ids parent position trees).map (place ·.id)
  | [], _, _, _ => rfl
  | tree :: rest, ids, parent, position => by
      rw [placedEach, placesEach, listingEach, List.map_append,
        places_placed place tree _ parent,
        placesEach_placedEach place rest ids parent (position + 1)]

end

/-- The place of each of the nodes is followed by the places of those that name it as their parent. -/
def Follows (place : Nat → Nat) (next : Nat → List Nat) (nodes : List MessageNode) : Prop :=
  ∀ node ∈ nodes, next (place node.id) = (nodes.filter (·.parent == node.id)).map (place ·.id)

mutual

theorem full_placed {next : Nat → List Nat} : (tree : TimingTree) → (ids : List Nat → Nat) →
    (parent : Nat) → parent ∉ (tree.listing ids parent).map (·.id) →
    ((tree.listing ids parent).map (·.id)).Nodup →
    Follows place next (tree.listing ids parent) → (tree.placed place ids).Full next
  | ⟨name, label, time, comment, children⟩, ids, parent, absent, once, follows => by
      rw [listing_eq] at absent once follows
      obtain ⟨notTop, notBelow⟩ := not_or.mp (mt List.mem_cons.mpr absent)
      obtain ⟨topFresh, belowOnce⟩ := List.nodup_cons.mp once
      refine .node ?_ (full_placedEach children ids (ids []) 0 topFresh belowOnce ?_)
      · have direct := follows _ List.mem_cons_self
        rw [List.filter_cons_of_neg (by simpa [flat] using notTop)] at direct
        exact ((filter_listingEach_parent ids (ids []) 0 children topFresh).symm.trans
          direct.symm)
      · intro node member
        have apart : parent ≠ node.id := fun same => notBelow (same ▸ List.mem_map_of_mem member)
        have direct := follows node (List.mem_cons_of_mem _ member)
        rwa [List.filter_cons_of_neg (by simpa [flat] using apart)] at direct

theorem full_placedEach {next : Nat → List Nat} : (trees : List TimingTree) →
    (ids : List Nat → Nat) → (parent position : Nat) →
    parent ∉ (listingEach ids parent position trees).map (·.id) →
    ((listingEach ids parent position trees).map (·.id)).Nodup →
    Follows place next (listingEach ids parent position trees) →
    ∀ below ∈ placedEach place ids position trees, below.Full next
  | [], _, _, _, _, _, _ => nofun
  | tree :: rest, ids, parent, position, absent, once, follows => by
      rw [listingEach, List.map_append] at absent once
      rw [listingEach] at follows
      obtain ⟨notFirst, notLater⟩ := not_or.mp (mt List.mem_append.mpr absent)
      obtain ⟨firstOnce, laterOnce, apart⟩ := List.nodup_append.mp once
      -- No id of one sibling is named as a parent by the nodes of the others.
      refine List.forall_mem_cons.mpr
        ⟨full_placed tree _ parent notFirst firstOnce fun node member => ?_,
          full_placedEach rest ids parent (position + 1) notLater laterOnce fun node member => ?_⟩
      · have direct := follows node (List.mem_append_left _ member)
        have inside : node.id ∈ (tree.listing _ parent).map (·.id) := List.mem_map_of_mem member
        have other : node.id ≠ parent := fun same => notFirst (same ▸ inside)
        rwa [List.filter_append, List.append_right_eq_self.mpr
          (filter_listingEach_eq_nil other fun later => apart _ inside _ later rfl)] at direct
      · have direct := follows node (List.mem_append_right _ member)
        have inside : node.id ∈ (listingEach ids parent (position + 1) rest).map (·.id) :=
          List.mem_map_of_mem member
        have other : node.id ≠ parent := fun same => notLater (same ▸ inside)
        rwa [List.filter_append, List.append_left_eq_self.mpr
          (filter_listing_eq_nil other fun first => apart _ first _ inside rfl)] at direct

end

mutual

theorem fill_placed {message : Message} (producer : String) : (tree : TimingTree) →
    (ids : List Nat → Nat) → (parent : Nat) →
    (∀ node ∈ tree.listing ids parent, message.nodeAt (place node.id) = node) →
    message.fill producer (tree.placed place ids) = tree.sent producer
  | ⟨_, _, _, _, children⟩, ids, _, found => by
      obtain ⟨here, below⟩ := List.forall_mem_cons.mp found
      rw [placed, Message.fill, sent, here,
        fillEach_placedEach producer children ids (ids []) 0 below]

theorem fillEach_placedEach {message : Message} (producer : String) : (trees : List TimingTree) →
    (ids : List Nat → Nat) → (parent position : Nat) →
    (∀ node ∈ listingEach ids parent position trees, message.nodeAt (place node.id) = node) →
    message.fillEach producer (placedEach place ids position trees) = sentEach producer trees
  | [], _, _, _, _ => rfl
  | tree :: rest, ids, parent, position, found => by
      obtain ⟨first, later⟩ := List.forall_mem_append.mp found
      rw [placedEach, Message.fillEach, sentEach, fill_placed producer tree _ parent first,
        fillEach_placedEach producer rest ids parent (position + 1) later]

end

theorem name_sent (tree : TimingTree) (producer : String) : (tree.sent producer).name = producer := by
  cases tree
  rfl

mutual

theorem settle_sent {producer : String} : (tree : TimingTree) → tree.Canonical producer →
    (tree.sent producer).settle producer = .ok tree
  | ⟨_, label, time, comment, children⟩, canonical => by
      obtain ⟨⟨rfl, measured, kept⟩, below⟩ := List.forall_mem_cons.mp canonical
      have same : keptComment (some (comment.getD "")) = comment := by
        cases comment with
        | none => rfl
        | some text => simpa [keptComment, Option.filter] using kept
      simp only [sent, settle, measured, settleEach_sentEach children below, same]
      rfl

theorem settleEach_sentEach {producer : String} : (trees : List TimingTree) →
    (∀ node ∈ preorderEach trees,
      node.name = producer ∧ isDuration node.time = true ∧ node.comment ≠ some "") →
    settleEach producer (sentEach producer trees) = .ok trees
  | [], _ => rfl
  | tree :: rest, canonical => by
      obtain ⟨first, later⟩ := List.forall_mem_append.mp canonical
      simp only [sentEach, settleEach, settle_sent tree first, settleEach_sentEach rest later]
      rfl

end

end TimingTree

namespace Message

variable {message : Message}

theorem getElem?_idxOf (once : message.ids.Nodup) {node : MessageNode}
    (member : node ∈ message.nodes) : message.nodes[message.ids.idxOf node.id]? = some node := by
  obtain ⟨place, inside, rfl⟩ := List.getElem_of_mem member
  have here : message.ids.idxOf message.nodes[place].id = place := by
    have found := once.idxOf_getElem place (by simpa [ids] using inside)
    simpa [ids] using found
  rw [here, List.getElem?_eq_getElem inside]

/-- With distinct ids, each listed place is the one of its node's id. -/
theorem listed_eq_idxOf (once : message.ids.Nodup) {listed : Listed}
    (member : listed ∈ message.listed) : listed.2 = message.ids.idxOf listed.1.id := by
  obtain ⟨inside, found⟩ := List.getElem?_eq_some_iff.mp (mem_listed_iff.mp member)
  have here := once.idxOf_getElem listed.2 (by simpa [ids] using inside)
  simpa [ids, found] using here.symm

theorem next_idxOf (once : message.ids.Nodup) {node : MessageNode}
    (member : node ∈ message.nodes) :
    message.next (message.ids.idxOf node.id) =
      (message.nodes.filter (·.parent == node.id)).map (message.ids.idxOf ·.id) := by
  have places : (message.childrenOf node.id).map (·.2) =
      (message.childrenOf node.id).map fun child => message.ids.idxOf child.1.id :=
    List.map_congr_left fun child inside =>
      listed_eq_idxOf once (mem_listed_of_mem_childrenOf inside)
  have nodes : message.nodes = message.listed.map (·.1) := (List.zipIdx_map_fst 0 _).symm
  rw [next_eq (getElem?_idxOf once member), places, nodes, List.filter_map, List.map_map]
  rfl

/-- The nodes of a tree, listed so that the children of each node keep their order. -/
structure Lists (message : Message) (tree : TimingTree) (ids : List Nat → Nat) (parent : Nat) :
    Prop where
  nodes : message.nodes.Perm (tree.listing ids parent)
  siblings : ∀ id ∈ message.ids,
    message.nodes.filter (·.parent == id) = (tree.listing ids parent).filter (·.parent == id)

namespace Lists

variable {tree : TimingTree} {ids : List Nat → Nat} {parent : Nat}

theorem ids_perm (lists : message.Lists tree ids parent) :
    message.ids.Perm ((tree.listing ids parent).map (·.id)) :=
  lists.nodes.map _

theorem nodeAt_idxOf (lists : message.Lists tree ids parent) (once : message.ids.Nodup) :
    ∀ node ∈ tree.listing ids parent, message.nodeAt (message.ids.idxOf node.id) = node :=
  fun _ member => nodeAt_eq (getElem?_idxOf once (lists.nodes.mem_iff.mpr member))

theorem follows (lists : message.Lists tree ids parent) (once : message.ids.Nodup) :
    TimingTree.Follows message.ids.idxOf message.next (tree.listing ids parent) := by
  intro node member
  have inside := lists.nodes.mem_iff.mpr member
  rw [next_idxOf once inside, lists.siblings node.id (List.mem_map_of_mem inside)]

theorem places_nodup (lists : message.Lists tree ids parent) (once : message.ids.Nodup) :
    (tree.placed message.ids.idxOf ids).places.Nodup := by
  have nodesOnce : (tree.listing ids parent).Nodup :=
    List.Nodup.of_map _ (lists.ids_perm.nodup_iff.mp once)
  rw [TimingTree.places_placed message.ids.idxOf tree ids parent]
  refine nodesOnce.map_on fun first firstMember second secondMember same => ?_
  rw [← lists.nodeAt_idxOf once first firstMember, same,
    lists.nodeAt_idxOf once second secondMember]

/-- The only node without a listed parent is the one of the tree's root. -/
theorem eq_flat (lists : message.Lists tree ids parent) {node : MessageNode}
    (member : node ∈ message.nodes) (orphan : node.parent ∉ message.ids) :
    node = tree.flat (ids []) parent := by
  have cases := TimingTree.parent_of_mem_listing tree ids parent node (lists.nodes.subset member)
  exact cases.resolve_right fun inside => orphan (lists.ids_perm.mem_iff.mpr inside)

/-- From the root's place the walk leaves the places of the tree. -/
theorem walk (lists : message.Lists tree ids parent) (once : message.ids.Nodup)
    (absent : parent ∉ message.ids) :
    ∃ after, Walk message.next [] [message.ids.idxOf (ids [])]
      [tree.placed message.ids.idxOf ids] after := by
  have full := TimingTree.full_placed tree ids parent (mt lists.ids_perm.mem_iff.mpr absent)
    (lists.ids_perm.nodup_iff.mp once) (lists.follows once)
  obtain ⟨after, walk⟩ := Walk.of_full [tree.placed message.ids.idxOf ids] []
    (List.forall_mem_singleton.mpr full)
    (by simpa [PlaceTree.placesEach] using lists.places_nodup once) fun _ _ => List.not_mem_nil
  refine ⟨after, ?_⟩
  simpa [TimingTree.root_placed] using walk

end Lists

/-- A tree whose nodes are listed in any order comes back as it was. -/
theorem ofSnapshot_of_lists {tree : TimingTree} {ids : List Nat → Nat} {parent : Nat}
    (canonical : tree.Canonical tree.label)
    (once : ((tree.listing ids parent).map (·.id)).Nodup)
    (unreserved : 0 ∉ (tree.listing ids parent).map (·.id))
    (top : parent = 0 ∨ parent ∉ (tree.listing ids parent).map (·.id))
    (lists : message.Lists tree ids parent) :
    ∃ raw, message.toRaw = .ok raw ∧ TimingTree.ofSnapshot raw = .ok tree := by
  have distinct : message.ids.Nodup := lists.ids_perm.nodup_iff.mpr once
  have numbered : ∀ node ∈ message.nodes, node.id ≠ 0 := fun node member zero =>
    unreserved (zero ▸ lists.ids_perm.subset (List.mem_map_of_mem member))
  have absent : parent ∉ message.ids := by
    rw [lists.ids_perm.mem_iff]
    rcases top with rfl | outside
    · exact unreserved
    · exact outside
  rcases toRaw_of_unreserved numbered with ⟨empty, -⟩ | ⟨root, rest, first, built⟩
  · have member : tree.flat (ids []) parent ∈ message.nodes := by
      rw [lists.nodes.mem_iff, TimingTree.listing_eq]
      exact List.mem_cons_self
    exact absurd ((roots_eq_nil_iff numbered).mp empty _ member) absent
  · obtain ⟨listed, -, orphan, -⟩ := firstRoot_of_roots numbered first
    have found := mem_listed_iff.mp listed
    rw [nodeAt_eq found] at orphan
    have node := lists.eq_flat (List.mem_of_getElem? found) orphan
    have start : root.2 = message.ids.idxOf (ids []) := by
      rw [listed_eq_idxOf distinct listed, node]
      rfl
    obtain ⟨below, after, walk, grows⟩ := grow_walk root.1.name listed
    obtain ⟨otherAfter, other⟩ := lists.walk distinct absent
    rw [← start] at other
    obtain ⟨same, -⟩ := walk.unique other
    refine ⟨tree.sent tree.label, ?_, ?_⟩
    · have label : root.1.name = tree.label := by rw [node]; rfl
      rw [built, grows _ (Nat.le_refl _), List.singleton_inj.mp same, label,
        TimingTree.fill_placed tree.label tree ids parent (lists.nodeAt_idxOf distinct)]
    · rw [TimingTree.ofSnapshot, TimingTree.name_sent, TimingTree.settle_sent tree canonical]

def nestedCalls : TimingTree :=
  ⟨"job", "job", .zero, none,
    [⟨"job", "read", .zero, none, [⟨"job", "open", .zero, some "cold", []⟩]⟩,
      ⟨"job", "write", .zero, none, []⟩]⟩

/-- The nodes of `nestedCalls`, inner calls before outer ones. -/
def innerFirst : Message :=
  ⟨[⟨4, "open", .zero, 2, "cold"⟩, ⟨2, "read", .zero, 1, ""⟩, ⟨3, "write", .zero, 1, ""⟩,
    ⟨1, "job", .zero, 9, ""⟩]⟩

theorem ofSnapshot_of_lists_innerFirst :
    ∃ raw, innerFirst.toRaw = .ok raw ∧ TimingTree.ofSnapshot raw = .ok nestedCalls := by
  have canonical : nestedCalls.Canonical "job" := by
    unfold TimingTree.Canonical
    decide
  have lists : innerFirst.Lists nestedCalls
      (fun path => path.foldl (fun id index => 2 * id + index) 1) 9 :=
    ⟨by decide, by decide⟩
  exact ofSnapshot_of_lists canonical (by decide) (by decide) (by decide) lists

end Message

end TimingBoard
