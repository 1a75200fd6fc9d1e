import TopicGateway.Config.Resolve
import TopicGateway.Text.Alphanumeric

/-! Files of variables. A file sets variables that are not set yet, one assignment to a line. Single
quotes take text as it is; elsewhere a backslash takes the next character, and a dollar sign with a
name, or with a name in braces, stands for the value of a variable. Text between quotes can go over
several lines. A line that is no assignment ends the reading; what stands before it counts. -/

namespace TopicGateway.Command.EnvFile

open Config (Environment)

def addFront (c : Char) : List (List Char) → List (List Char)
  | [] => [[c]]
  | line :: rest => if c = '\n' then ['\n'] :: line :: rest else (c :: line) :: rest

def lines (cs : List Char) : List (List Char) :=
  cs.foldr addFront []

inductive LineState where
  | complete
  | blank
  | escape
  | strong
  | strongEscape
  | weak
  | weakEscape
  deriving DecidableEq

def outside (c : Char) : LineState :=
  if c = '\\' then .escape else if c = '"' then .weak else if c = '\'' then .strong else .complete

def LineState.next (s : LineState) (c : Char) : LineState :=
  match s with
  | .complete => if Text.isWhite c && c ≠ '\n' && c ≠ '\r' then .blank else outside c
  | .blank => outside c
  | .escape => .complete
  | .strong => if c = '\\' then .strongEscape else if c = '\'' then .complete else .strong
  | .strongEscape => .strong
  | .weak => if c = '\\' then .weakEscape else if c = '"' then .complete else .weak
  | .weakEscape => .weak

/-- The part of a line in front of its comment, the last character first, with the state behind it.
There is no state if a comment was found. -/
def scan : LineState → List Char → List Char → List Char × Option LineState
  | s, seen, [] => (seen, some s)
  | s, seen, c :: cs =>
    if s = .blank ∧ c = '#' then (seen, none) else scan (s.next c) (c :: seen) cs

/-- Without the line feed at the end and a carriage return before it; the last character first. -/
def dropLineEnd : List Char → List Char
  | '\n' :: '\r' :: cs => cs
  | '\n' :: cs => cs
  | cs => cs

/-- Lines joined where quotes or a backslash make them one; `seen` is what the next line continues,
the last character first. A line that is never completed is left out. -/
def joined : LineState → List Char → List (List Char) → List (List Char)
  | _, _, [] => []
  | s, seen, line :: rest =>
    if startsWithHash (seen.reverse ++ line) then joined .complete [] rest
    else
      match scan s seen line with
      | (all, none) => all.reverse :: joined .complete [] rest
      | (all, some .complete) => (dropLineEnd all).reverse :: joined .complete [] rest
      | (all, some s) => joined s all rest
where
  /-- The text is a comment. -/
  startsWithHash (cs : List Char) : Bool :=
    (Text.trimStart cs).head? = some '#'

inductive Substitution where
  | none
  | plain
  | braces
  deriving DecidableEq

/-- A value that is being read; text and name with the last character first. -/
structure Value where
  strong : Bool
  weak : Bool
  escaped : Bool
  ended : Bool
  substitution : Substitution
  name : List Char
  text : List Char

namespace Value

def start : Value := ⟨false, false, false, false, .none, [], []⟩

def push (v : Value) (c : Char) : Value :=
  { v with text := c :: v.text }

/-- Puts the value of the variable that was named; one that is not set is empty. -/
def substitute (env : Environment) (v : Value) : Value :=
  let value := (env (String.ofList v.name.reverse)).getD ""
  { v with name := [], substitution := .none, text := value.toList.reverse ++ v.text }

/-- Behind one more character; there is none where that may not stand. -/
def next? (env : Environment) (v : Value) (c : Char) : Option Value :=
  if v.ended then
    if c = ' ' ∨ c = '\t' then some v else .none
  else if v.escaped then
    let v := { v with escaped := false }
    if c = 'n' then some (v.push '\n')
    else if ['\\', '\'', '"', '$', ' '].contains c then some (v.push c)
    else .none
  else if v.strong then
    some (if c = '\'' then { v with strong := false } else v.push c)
  else
    match v.substitution with
    | .plain =>
      if Text.isAlphanumeric c then some { v with name := c :: v.name }
      else if c = '\x7b' ∧ v.name.isEmpty then some { v with substitution := .braces }
      else
        let v := v.substitute env
        some (if c = '$' then { v with substitution := .plain } else v.push c)
    | .braces =>
      some (if c = '\x7d' then v.substitute env else { v with name := c :: v.name })
    | .none =>
      if c = '$' then some { v with substitution := .plain }
      else if c = '\\' then some { v with escaped := true }
      else if v.weak then some (if c = '"' then { v with weak := false } else v.push c)
      else if c = '\'' then some { v with strong := true }
      else if c = '"' then some { v with weak := true }
      else if c = ' ' ∨ c = '\t' then some { v with ended := true }
      else some (v.push c)

/-- What has been read, unless a quote or a brace is open. -/
def finish? (env : Environment) (v : Value) : Option String :=
  if v.strong || v.weak || v.substitution = .braces then .none
  else some (String.ofList (v.substitute env).text.reverse)

/-- The value that the text after an equals sign gives. A comment ends it. -/
def read? (env : Environment) (v : Value) : List Char → Option String
  | [] => v.finish? env
  | c :: cs =>
    if v.ended ∧ c = '#' then v.finish? env else (v.next? env c).bind fun v => read? env v cs

end Value

def isKeyStart (c : Char) : Bool :=
  c.isAlpha || c = '_'

def isKeyChar (c : Char) : Bool :=
  c.isAlphanum || c = '_' || c = '.'

/-- A key at the front, with the text behind it and behind white space. -/
def key? (cs : List Char) : Option (String × List Char) :=
  if cs.head?.any isKeyStart then
    some (String.ofList (cs.takeWhile isKeyChar), Text.trimStart (cs.dropWhile isKeyChar))
  else none

def behindEquals? : List Char → Option (List Char)
  | '=' :: cs => some cs
  | _ => none

/-- A key and the text behind its equals sign. The word `export` may stand in front. -/
def keyed? (cs : List Char) : Option (String × List Char) :=
  match key? cs with
  | none => none
  | some (key, rest) =>
    match behindEquals? rest with
    | some value => some (key, value)
    | none =>
      if key = "export" then
        (key? rest).bind fun (key, rest) => (behindEquals? rest).map fun value => (key, value)
      else none

inductive Line where
  | empty
  | assignment (key value : String)
  | malformed

def parseLine (env : Environment) (line : List Char) : Line :=
  let cs := Text.trimStart (Text.trimEnd line)
  if cs.isEmpty || cs.head? = some '#' then .empty
  else
    match keyed? cs with
    | none => .malformed
    | some (key, value) =>
      let value := Text.trimStart value
      if value.isEmpty || value.head? = some '#' then .assignment key ""
      else
        match Value.read? env .start value with
        | some value => .assignment key value
        | none => .malformed

/-- The variables with one more, if it is not set. -/
def assign (env : Environment) (key value : String) : Environment := fun name =>
  match env name with
  | some given => some given
  | none => if name = key then some value else none

def loadLines (env : Environment) : List (List Char) → Environment
  | [] => env
  | line :: rest =>
    match parseLine env line with
    | .empty => loadLines env rest
    | .assignment key value => loadLines (assign env key value) rest
    | .malformed => env

def dropByteOrderMark : List Char → List Char
  | '\ufeff' :: cs => cs
  | cs => cs

def load (env : Environment) (text : String) : Environment :=
  loadLines env (joined .complete [] (lines (dropByteOrderMark text.toList)))

end TopicGateway.Command.EnvFile
