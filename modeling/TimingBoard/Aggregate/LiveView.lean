import TimingBoard.Tree.Outline

namespace TimingBoard

/-! The text of the live view. -/

namespace LiveView

def defaultTitle : String := "🌲 Processing Time Tree 🌲"

def treeLines (comments summarize : Bool) : List TimingTree → List String
  | [] => ["Waiting for messages..."]
  | [tree] => tree.lines comments summarize
  | tree :: rest => tree.lines comments summarize ++ "" :: treeLines comments summarize rest

def lines (title : String) (topic : Option String) (trees : List TimingTree)
    (comments summarize : Bool) : List String :=
  title :: ("topic: " ++ topic.getD "-") :: "" :: treeLines comments summarize trees

def text (title : String) (topic : Option String) (trees : List TimingTree)
    (comments summarize : Bool) : String :=
  "\n".intercalate (lines title topic trees comments summarize)

end LiveView

end TimingBoard
