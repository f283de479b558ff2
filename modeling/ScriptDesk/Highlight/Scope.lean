import ScriptDesk.Text.Basic

namespace ScriptDesk

inductive StyleClass
  | keyword
  | function
  | string
  | comment
  | variable
  | constant
  | plain
  deriving DecidableEq, Repr

def StyleClass.name : StyleClass → Text
  | .keyword => "Keyword".toList
  | .function => "Function".toList
  | .string => "String".toList
  | .comment => "Comment".toList
  | .variable => "Variable".toList
  | .constant => "Constant".toList
  | .plain => "Plain".toList

abbrev Scope := List Text

def Scope.ofName (name : Text) : Scope :=
  let name := (name.reverse.dropWhile (· == '.')).reverse
  if name.isEmpty then [] else Text.splitOn '.' name

namespace StyleClass

def rules : List (Scope × StyleClass) := [
  (.ofName "keyword".toList, .keyword),
  (.ofName "storage".toList, .keyword),
  (.ofName "support".toList, .function),
  (.ofName "entity.name.function".toList, .function),
  (.ofName "string".toList, .string),
  (.ofName "comment".toList, .comment),
  (.ofName "variable".toList, .variable),
  (.ofName "punctuation.definition.variable".toList, .variable),
  (.ofName "constant".toList, .constant)]

def ofScope? (s : Scope) : Option StyleClass :=
  (rules.find? fun rule => rule.1.isPrefixOf s).map (·.2)

/-- The class of the innermost scope that has one; the innermost comes first. -/
def ofScopes (inward : List Scope) : StyleClass := (inward.findSome? ofScope?).getD .plain

end StyleClass
end ScriptDesk
