namespace TimingBoard

/-! What a terminal is asked to show. -/

structure TreeScreen where
  text : String
  status : String
deriving DecidableEq, Repr

structure TopicMenu where
  topics : List String
  selected : Nat
deriving DecidableEq, Repr

inductive Screen where
  | trees (screen : TreeScreen)
  | menu (menu : TopicMenu)
deriving DecidableEq, Repr

end TimingBoard
