import ScriptDesk.Highlight.Scope

/-! Spans of a line.  A grammar reads a line and reports, in order, at which characters scopes open
and close; between these points the innermost scopes give the class.  Newlines at the end are not
part of any span, neighbours of one class are one span, and no span is empty. -/

namespace ScriptDesk

structure Span where
  text : Text
  style : StyleClass
  deriving DecidableEq, Repr

namespace Highlight

inductive ScopeOp
  | push (s : Scope)
  | pop (n : Nat)
  | clear (n : Option Nat)
  | restore
  | noop
  deriving DecidableEq, Repr

structure ScopeStack where
  scopes : List Scope
  cleared : List (List Scope)
  deriving DecidableEq, Repr

def ScopeStack.empty : ScopeStack := ⟨[], []⟩

def ScopeStack.style (k : ScopeStack) : StyleClass := .ofScopes k.scopes

def ScopeOp.apply (k : ScopeStack) : ScopeOp → Option ScopeStack
  | .push s => some { k with scopes := s :: k.scopes }
  | .pop n => some { k with scopes := k.scopes.drop n }
  | .clear none => some ⟨[], k.scopes :: k.cleared⟩
  | .clear (some n) => some ⟨k.scopes.drop n, k.scopes.take n :: k.cleared⟩
  | .restore =>
    match k.cleared with
    | [] => none
    | c :: cs => some ⟨c ++ k.scopes, cs⟩
  | .noop => some k

abbrev Ops := List (Nat × ScopeOp)

def addSpan (text : Text) (style : StyleClass) (spans : List Span) : List Span :=
  let text := Text.trimNewlines text
  if text.isEmpty then spans
  else match spans with
    | [] => [⟨text, style⟩]
    | s :: ss => if s.style = style then ⟨s.text ++ text, style⟩ :: ss else ⟨text, style⟩ :: s :: ss

def spansFrom (line : Text) : Nat → Ops → ScopeStack → List Span → Option (List Span × ScopeStack)
  | from_, [], k, spans => some ((addSpan (line.drop from_) k.style spans).reverse, k)
  | from_, (at_, op) :: ops, k, spans =>
    match op.apply k with
    | none => none
    | some k' =>
      spansFrom line at_ ops k' (addSpan ((line.drop from_).take (at_ - from_)) k.style spans)

def plainSpans (line : Text) : List Span :=
  let line := Text.trimNewlines line
  if line.isEmpty then [] else [⟨line, .plain⟩]

structure Grammar where
  State : Type
  initial : State
  /-- What the scopes do on a line; none if the line cannot be read. -/
  parse : State → Text → Option (Ops × State)

variable (g : Grammar)

abbrev Grammar.Progress := g.State × ScopeStack

def Grammar.start : g.Progress := (g.initial, .empty)

def Grammar.spans (p : g.Progress) (line : Text) : Option (List Span × g.Progress) := do
  let (ops, state) ← g.parse p.1 line
  let (spans, k) ← spansFrom line 0 ops p.2 []
  return (spans, state, k)

def Grammar.classify (line : Text) : List Span :=
  match g.spans g.start (Text.trimNewlines line ++ ['\n']) with
  | some (spans, _) => spans
  | none => plainSpans line

/-- Lines one after another; once one cannot be read, it and all after it are plain. -/
def Grammar.classifyLines : Option g.Progress → List Text → List (List Span)
  | _, [] => []
  | none, line :: lines => plainSpans line :: classifyLines none lines
  | some p, line :: lines =>
    match g.spans p line with
    | some (spans, p) => spans :: classifyLines (some p) lines
    | none => plainSpans line :: classifyLines none lines

def Grammar.classifyText (t : Text) : List (List Span) :=
  g.classifyLines (some g.start) (Text.lines t)

end Highlight
end ScriptDesk
