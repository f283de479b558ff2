import ScriptDesk.Highlight.Span
import ScriptDesk.Highlight.Word

/-! A grammar for a part of bash: comments, words, quoted text, parameters, substitutions,
assignments, loops, conditions and the heads of functions.  It goes through a line character by
character.  A quotation or a substitution interrupts what it stands in, which goes on behind it. -/

namespace ScriptDesk.Highlight.Shell

open Word

inductive Place
  | command
  | arguments (spaced : Bool)
  | assign
  | value
  | loop
  | functionName
  | heading
  | braceOpen
  | braceName
  | parenOpen
  | single
  | double
  | comment
  deriving DecidableEq, Repr

structure Frame where
  place : Place
  test : Bool
  deriving DecidableEq, Repr

structure State where
  place : Place
  test : Bool
  outer : List Frame
  left : Nat
  scopes : List Scope
  deriving DecidableEq, Repr

def State.initial : State := ⟨.command, false, [], 0, []⟩

def scope (name : String) : Scope := .ofName name.toList

def keywordScope : Scope := scope "keyword.control.shell"
def operatorScope : Scope := scope "keyword.operator.shell"
def builtinScope : Scope := scope "support.function.builtin.shell"
def functionScope : Scope := scope "entity.name.function.shell"
def commandScope : Scope := scope "variable.function.shell"
def nameScope : Scope := scope "variable.other.readwrite.shell"
def optionScope : Scope := scope "variable.parameter.option.shell"
def dollarScope : Scope := scope "punctuation.definition.variable.shell"
def singleScope : Scope := scope "string.quoted.single.shell"
def doubleScope : Scope := scope "string.quoted.double.shell"
def bareScope : Scope := scope "string.unquoted.shell"
def escapeScope : Scope := scope "constant.character.escape.shell"
def commentScope : Scope := scope "comment.line.number-sign.shell"

/-- The scopes of a double-quoted text reach into what interrupts it. -/
def State.around (s : State) : List Scope :=
  if s.outer.any (·.place == .double) then [doubleScope] else []

def State.token (s : State) (n : Nat) (scopes : List Scope) (place : Place) : List Scope × State :=
  let scopes := s.around ++ scopes
  (scopes, { s with left := n - 1, scopes, place })

def State.stay (s : State) (scopes : List Scope) : List Scope × State := s.token 1 scopes s.place

def State.interrupt (s : State) (place : Place) : State :=
  { s with test := false, outer := ⟨place, s.test⟩ :: s.outer }

def State.resume (s : State) (scopes : List Scope) : List Scope × State :=
  let scopes := s.around ++ scopes
  match s.outer with
  | [] => (scopes, { s with place := .arguments false })
  | f :: outer => (scopes, { s with place := f.place, test := f.test, outer })

def after : Keyword → Place
  | .opening => .command
  | .closing => .arguments false
  | .loop => .loop
  | .function => .functionName

def State.head (s : State) (t : Text) : List Scope × State :=
  match headOf t with
  | .keyword k n => s.token n [keywordScope] (after k)
  | .assigned n => s.token n [nameScope] .assign
  | .function n => s.token n [functionScope] .heading
  | .builtin n => s.token n [builtinScope] (.arguments false)
  | .command n => s.token n [commandScope] (.arguments false)

def State.dollar (s : State) (bare : List Scope) (back : Place) : Text → List Scope × State
  | '\x7b' :: _ => (s.interrupt back).token 1 [dollarScope] .braceOpen
  | '(' :: _ => (s.interrupt back).token 1 [dollarScope] .parenOpen
  | rest =>
    match parameterLength rest with
    | 0 => s.token 1 bare back
    | n + 1 => s.token (n + 2) (bare ++ [nameScope]) back

def State.argument (s : State) (spaced : Bool) (back : Place) (bare : List Scope) (c : Char)
    (rest : Text) : List Scope × State :=
  match c, rest with
  | ';', _ => s.token 1 [operatorScope] .command
  | '&', '&' :: _ => s.token 2 [operatorScope] .command
  | '&', _ => s.token 1 [operatorScope] .command
  | '|', '|' :: _ => s.token 2 [operatorScope] .command
  | '|', _ => s.token 1 [operatorScope] .command
  | '\'', _ => (s.interrupt back).token 1 [singleScope] .single
  | '"', _ => (s.interrupt back).token 1 [doubleScope] .double
  | '\\', '\n' :: _ => s.token 2 [] s.place
  | '\\', _ :: _ => s.token 2 [escapeScope] back
  | '$', _ => s.dollar bare back rest
  | ')', _ => if s.outer.isEmpty then s.token 1 bare back else s.resume []
  | ']', _ => s.token 1 (if spaced && s.test then [builtinScope] else bare) back
  | '-', _ =>
    if spaced then s.token (rest.takeWhile fun d => !isMeta d).length.succ [optionScope] back
    else s.token 1 bare back
  | _, _ => s.token 1 bare back

def State.command (s : State) (c : Char) (rest : Text) : List Scope × State :=
  let s := { s with test := c == '[' }
  if isGap c then s.stay []
  else match c with
    | '#' => s.token 1 [commentScope] .comment
    | '\x7d' => s.token 1 [] (.arguments false)
    | '\x7b' => if rest.head?.any isGap then s.stay [] else s.head (c :: rest)
    | '[' => s.token 1 [builtinScope] (.arguments false)
    | c =>
      if isMeta c || isActive c then s.argument false (.arguments false) [commandScope] c rest
      else s.head (c :: rest)

def State.next (s : State) (c : Char) (rest : Text) : List Scope × State :=
  match s.left, s.place with
  | left + 1, _ => (s.scopes, { s with left })
  | 0, .single => if c = '\'' then s.resume [singleScope] else s.stay [singleScope]
  | 0, .double =>
    if c = '"' then s.resume [doubleScope]
    else if c = '\\' && rest.head?.any isEscapable then s.token 2 [doubleScope, escapeScope] .double
    else if c = '$' then s.dollar [doubleScope] .double rest
    else s.stay [doubleScope]
  | 0, place =>
    if c = '\n' then ({ s with test := false } : State).token 1 [] .command
    else match place with
      | .command => s.command c rest
      | .arguments spaced =>
        if isGap c then s.token 1 [] (.arguments true)
        else if c = '#' && spaced then s.token 1 [commentScope] .comment
        else s.argument spaced (.arguments false) [] c rest
      | .assign => s.token 1 [operatorScope] .value
      | .value =>
        if isGap c then s.token 1 [] .command else s.argument false .value [bareScope] c rest
      | .loop =>
        let word := (c :: rest).takeWhile fun d => !isMeta d
        if word = "in".toList then s.token 2 [keywordScope] (.arguments false)
        else s.token (max word.length 1) [] .loop
      | .functionName =>
        if isGap c then s.stay []
        else s.token (max ((c :: rest).takeWhile fun d => !isMeta d).length 1) [functionScope] .heading
      | .heading => s.token 1 [] (if c = '\x7b' then .command else .heading)
      | .braceOpen => s.token 1 [] .braceName
      | .braceName => if c = '\x7d' then s.resume [] else s.stay [nameScope]
      | .parenOpen => s.token 1 [] .command
      | _ => s.stay [commentScope]

def scopesFrom (s : State) : Text → List (List Scope) × State
  | [] => ([], s)
  | c :: t =>
    let (scopes, s) := s.next c t
    let (more, s) := scopesFrom s t
    (scopes :: more, s)

def opsFrom (at_ : Nat) (opened : List Scope) : List (List Scope) → Ops
  | [] => [(at_, .pop opened.length)]
  | scopes :: more =>
    (if scopes = opened then []
      else (at_, .pop opened.length) :: scopes.map fun s => (at_, .push s)) ++
      opsFrom (at_ + 1) scopes more

def grammar : Grammar where
  State := State
  initial := .initial
  parse s line :=
    let (scopes, s) := scopesFrom s line
    some (opsFrom 0 [] scopes, s)

end ScriptDesk.Highlight.Shell
