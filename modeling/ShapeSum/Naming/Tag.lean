/-!
# Tags

The tag of a variant is its type name as a constant.  The name is cut into
*tokens*: runs of capitals, runs of small letters with an optional capital in
front, runs of digits, and runs of separators.  The last capital before small
letters belongs to these.  Tokens of separators are dropped, the others are joined
by underscores in capitals.

Tokens are formed from the end of the name, so a character is only ever compared
with the token behind it.  `flatten_tokens` says that no character is lost.
-/

namespace ShapeSum

/-- The kinds of characters in a type name. -/
inductive TokenKind where
  /-- An ASCII capital. -/
  | capital
  /-- An ASCII small letter. -/
  | small
  /-- An ASCII digit. -/
  | digit
  /-- Any other character. -/
  | separator
  deriving DecidableEq

/-- The kind of a character. -/
def tokenKind (c : Char) : TokenKind :=
  if c.isUpper then .capital
  else if c.isLower then .small
  else if c.isDigit then .digit
  else .separator

/-- Whether a character joins the token behind it: one of its own kind, or small letters behind a
capital. -/
def joinsToken (c : Char) (token : List Char) : Bool :=
  token.all (tokenKind · == tokenKind c) ||
    (tokenKind c == .capital && token.all (tokenKind · == .small))

/-- Puts a character in front of tokens. -/
def pushToken (c : Char) : List (List Char) → List (List Char)
  | [] => [[c]]
  | t :: ts => if joinsToken c t then (c :: t) :: ts else [c] :: t :: ts

/-- The tokens of a name. -/
def tokens (name : List Char) : List (List Char) := name.foldr pushToken []

/-- Whether a token consists of separators. -/
def isSeparatorToken (token : List Char) : Bool := token.all (tokenKind · == .separator)

/-- Tokens in capitals, joined by underscores. -/
def joinTokens : List (List Char) → List Char
  | [] => []
  | [t] => t.map Char.toUpper
  | t :: ts => t.map Char.toUpper ++ '_' :: joinTokens ts

/-- The characters of the tag for a type name; empty if it has no letter and no digit. -/
def tagChars (name : List Char) : List Char :=
  match joinTokens ((tokens name).filter (!isSeparatorToken ·)) with
  | [] => []
  | c :: rest => if c.isDigit then '_' :: c :: rest else c :: rest

/-- The tag for a type name; `empty` stands in where the name gives none. -/
def tagFor (typeName empty : String) : String :=
  match tagChars typeName.toList with
  | [] => empty
  | cs => String.ofList cs

/-- The tokens make up the name. -/
theorem flatten_tokens (name : List Char) : (tokens name).flatten = name := by
  induction name with
  | nil => rfl
  | cons c rest ih =>
    simp only [tokens, List.foldr_cons] at ih ⊢
    generalize List.foldr pushToken [] rest = ts at ih ⊢
    cases ts with
    | nil => simp [pushToken, ← ih]
    | cons t ts =>
      simp only [pushToken]
      split <;> simp [← ih]

example : tokens "HTTPFish_2b".toList =
    ["HTTP".toList, "Fish".toList, "_".toList, "2".toList, "b".toList] := by decide

example : tagFor "PetDog_2" "NONE" = "PET_DOG_2" ∧ tagFor "__" "NONE" = "NONE" ∧
    tagFor "1a" "NONE" = "_1_A" := by decide +kernel

end ShapeSum
