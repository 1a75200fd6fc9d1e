import TopicGateway.Http.Basic

/-! Media types. `BodyKind` tells the bodies apart that requests may have. `MediaType` is a content
type with its parameters: tokens, or values between double quotes that may hold anything but control
characters. -/

namespace TopicGateway.Http

inductive BodyKind where
  | json
  | multipart
  | other
  deriving DecidableEq

/-- The kind of body that a content type announces; parameters do not matter. -/
def BodyKind.ofContentType (value : List Char) : BodyKind :=
  let essence := (Text.trimEnd (Text.trimStart (value.takeWhile (· != ';')))).map Char.toLower
  if essence = "multipart/form-data".toList then .multipart
  else if essence = "application/json".toList ∨
      ("application/".toList.isPrefixOf essence ∧ "+json".toList.isSuffixOf essence) then .json
  else .other

def Request.bodyKind (r : Request) : BodyKind :=
  (r.contentType?.map BodyKind.ofContentType).getD .other

def isToken (c : Char) : Bool :=
  c.isAlphanum || "!#$%&'*+-.^_`|~".toList.contains c

structure MediaType where
  type : String
  subtype : String
  /-- Names in lower case, in their order. -/
  parameters : List (String × String)
  deriving DecidableEq

namespace MediaType

def lower (cs : List Char) : String :=
  String.ofList (cs.map Char.toLower)

def isQuotable (c : Char) : Bool :=
  32 ≤ c.toNat && c.toNat != 127

/-- A value between quotes, after the first quote: at least one character, up to a quote. -/
def quotedValue? : List Char → Option (List Char × List Char)
  | [] => none
  | first :: rest =>
    if isQuotable first then
      let others := rest.takeWhile fun c => isQuotable c && c != '"'
      match rest.drop others.length with
      | '"' :: rest => some (first :: others, rest)
      | _ => none
    else none

/-- After a quoted value: blanks up to the end or to the next parameter. -/
def afterQuoted? (cs : List Char) : Option (List Char) :=
  match cs.dropWhile (· = ' ') with
  | [] => some []
  | ';' :: rest => some rest
  | _ => none

/-- A bare value up to the end or to the next parameter; only at the end may it be empty. -/
def bareValue? (cs : List Char) : Option (List Char × List Char) :=
  let value := cs.takeWhile isToken
  match cs.drop value.length with
  | [] => some (value, [])
  | ';' :: rest => if value.isEmpty then none else some (value, rest)
  | _ => none

def parameter? (cs : List Char) : Option ((String × String) × List Char) :=
  let name := cs.takeWhile isToken
  if name.isEmpty then none
  else
    match cs.drop name.length with
    | '=' :: '"' :: rest => do
      let (value, rest) ← quotedValue? rest
      let rest ← afterQuoted? rest
      return ((lower name, String.ofList value), rest)
    | '=' :: rest => do
      let (value, rest) ← bareValue? rest
      return ((lower name, String.ofList value), rest)
    | _ => none

/-- Every parameter; each takes at least one character. -/
def parametersWithin? : Nat → List Char → Option (List (String × String))
  | 0, _ => some []
  | fuel + 1, cs =>
    match cs.dropWhile (· = ' ') with
    | [] => some []
    | cs => do
      let (p, rest) ← parameter? cs
      return p :: (← parametersWithin? fuel rest)

/-- The subtype without what follows the last plus sign that has something in front of it. -/
def withoutSuffix (subtype : List Char) : List Char :=
  match subtype with
  | [] => []
  | first :: others =>
    if others.contains '+' then
      first :: (others.reverse.dropWhile (· != '+')).tail.reverse
    else subtype

def ofChars? (cs : List Char) : Option MediaType :=
  let type := cs.takeWhile isToken
  if type.isEmpty then none
  else
    match cs.drop type.length with
    | '/' :: rest =>
      let subtype := rest.takeWhile isToken
      match rest.drop subtype.length with
      | [] => some ⟨lower type, lower (withoutSuffix subtype), []⟩
      | ';' :: parameters =>
        if subtype.isEmpty then none
        else
          (parametersWithin? (parameters.length + 1) parameters).map fun ps =>
            ⟨lower type, lower (withoutSuffix subtype), ps⟩
      | _ => none
    | _ => none

def parameter (m : MediaType) (name : String) : Option String :=
  m.parameters.lookup name

end MediaType

end TopicGateway.Http
