import TimingBoard.Tree.Snapshot
import TimingBoard.Log

namespace TimingBoard

/-! Messages: the flat form in which producers send trees.

A message lists its nodes in any order, each with the id of its parent.  Ids come from outside, so
they may repeat or form cycles; the tree of a message is what a walk from its first root meets, each
listed node at most once. -/

structure MessageNode where
  id : Nat
  name : String
  time : Binary64
  parent : Nat
  comment : String
deriving DecidableEq, Repr

structure Message where
  nodes : List MessageNode
deriving DecidableEq, Repr

abbrev Listed := MessageNode × Nat

namespace Message

def listed (message : Message) : List Listed := message.nodes.zipIdx

def ids (message : Message) : List Nat := message.nodes.map (·.id)

/-- No node of the list is the parent of this one; id 0 stands for no node. -/
def isRoot (message : Message) (node : MessageNode) : Bool :=
  node.parent == 0 || !message.ids.contains node.parent

def roots (message : Message) : List Listed :=
  message.listed.filter fun (node, _) => message.isRoot node

/-- The nodes that name `id` as their parent, in list order. -/
def childrenOf (message : Message) (id : Nat) : List Listed :=
  message.listed.filter fun (node, _) => node.parent == id

/-- Grows a tree from each node that is still unvisited when its turn comes. -/
def growEach (grow : List Nat → Listed → TimingTree × List Nat) :
    (visited : List Nat) → List Listed → List TimingTree × List Nat
  | visited, [] => ([], visited)
  | visited, child :: rest =>
      if visited.contains child.2 then growEach grow visited rest
      else
        let (tree, visited) := grow visited child
        let (trees, visited) := growEach grow visited rest
        (tree :: trees, visited)

/-- The tree below a node, depth first, and the places visited so far.  A path visits no place
twice, so the number of nodes bounds its length. -/
def grow (message : Message) (producer : String) :
    (depth : Nat) → (visited : List Nat) → Listed → TimingTree × List Nat
  | 0, visited, (node, index) =>
      (⟨producer, node.name, node.time, some node.comment, []⟩, index :: visited)
  | depth + 1, visited, (node, index) =>
      let (children, visited) :=
        growEach (message.grow producer depth) (index :: visited) (message.childrenOf node.id)
      (⟨producer, node.name, node.time, some node.comment, children⟩, visited)

/-- The nested form of a message, before its times are checked. -/
def toRaw (message : Message) : Except SnapshotFault TimingTree :=
  match message.nodes.find? (·.id == 0) with
  | some node => .error (.reservedId node.name)
  | none =>
      match message.roots with
      | [] => .error .noRoot
      | root :: _ => .ok (message.grow root.1.name message.nodes.length [] root).1

def notices (message : Message) : List LogRecord :=
  if (message.nodes.find? (·.id == 0)).isSome then []
  else
    match message.roots with
    | root :: _ :: _ =>
        [⟨.topic, .debug,
          "Message from '" ++ root.1.name ++ "' has several roots, keeping the first"⟩]
    | _ => []

def toTree (message : Message) : Except SnapshotFault TimingTree :=
  message.toRaw.bind TimingTree.ofSnapshot

end Message

end TimingBoard
