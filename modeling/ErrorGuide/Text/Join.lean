/-! Joining of texts. -/

namespace ErrorGuide.Text

def join (sep : String) : List String → String
  | [] => ""
  | [s] => s
  | s :: t :: rest => s ++ sep ++ join sep (t :: rest)

def concat : List String → String
  | [] => ""
  | s :: rest => s ++ concat rest

end ErrorGuide.Text
