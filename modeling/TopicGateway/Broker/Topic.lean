/-! Topic patterns. A routing key is a list of words between dots. A pattern is too, but the word
`*` stands for exactly one word and the word `#` for any number of them. -/

namespace TopicGateway.Broker

/-- The pieces between the separators; there is one more of them than separators. -/
def pieces (separator : Char) (cs : List Char) : List (List Char) :=
  cs.foldr (fun c found =>
    if c = separator then [] :: found
    else
      match found with
      | piece :: rest => (c :: piece) :: rest
      | [] => [[c]]) [[]]

def words (key : String) : List (List Char) :=
  pieces '.' key.toList

inductive PatternWord where
  | one
  | many
  | exactly (word : List Char)
  deriving DecidableEq

def PatternWord.ofWord (word : List Char) : PatternWord :=
  if word = ['#'] then .many
  else if word = ['*'] then .one
  else .exactly word

def patternWords (pattern : String) : List PatternWord :=
  (words pattern).map .ofWord

/-- Some end of the list, the whole list included, has the property. -/
def anySuffix {α : Type} (holds : List α → Bool) : List α → Bool
  | [] => holds []
  | a :: rest => holds (a :: rest) || anySuffix holds rest

/-- Whether the words of a key can be dealt out to the words of a pattern. -/
def matchWords : List PatternWord → List (List Char) → Bool
  | [], key => key.isEmpty
  | .many :: pattern, key => anySuffix (matchWords pattern) key
  | .one :: pattern, key =>
    match key with
    | [] => false
    | _ :: rest => matchWords pattern rest
  | .exactly word :: pattern, key =>
    match key with
    | [] => false
    | first :: rest => first = word && matchWords pattern rest

def topicMatches (pattern key : String) : Bool :=
  matchWords (patternWords pattern) (words key)

end TopicGateway.Broker
