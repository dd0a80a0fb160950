import VoomProof.PolicySyntax

/-!
# Reading the text of a statement

The functions of `syntax/text.rs`. A statement keeps its header as text, and validation
and lowering both take it apart again: into words, into the values of a list, around a
quoted value, at the delimiters of a condition.
-/

namespace Voom

open RustText

/-- The header of a statement, without the body between its braces. -/
def statementText : StatementAst → Text
  | .raw _ text _ => text
  | .transcodeInline _ header _ _ | .synthesizeInline _ header _ _ => header
  | .block keyword (some name) _ _ => keyword.value.toList ++ ' ' :: name.value
  | .block keyword none _ _ => keyword.value.toList

/-! ## Words and lists -/

def isWordSeparator (c : Char) : Bool :=
  isAsciiWhitespace c || c = '[' || c = ']' || c = ',' || c = ':'

def words (text : Text) : List String :=
  ((text.splitOnP isWordSeparator).filter (· ≠ [])).map String.ofList

/-- What stands between the first `[` and the next `]`, and what follows that. -/
def bracketed (text : Text) : Option (Text × Text) :=
  (splitOnce ['['] text).bind fun (_, rest) => splitOnce [']'] rest

def listValues (text : Text) : List String :=
  match bracketed text with
  | none => []
  | some (inner, _) =>
      (((inner.splitOnP (· = ',')).map trim).filter (· ≠ [])).map String.ofList

def textAfterList (text : Text) : Option Text := (bracketed text).map fun (_, rest) => trim rest

def dependencyValues (text : Text) : List String :=
  let list := listValues text
  if list ≠ [] ∨ '[' ∈ text then list else (words text).drop 1

def settingValue (text : Text) : Option String :=
  match splitOnce [':'] text with
  | some (_, value) => some (String.ofList (trim value))
  | none => (words text)[1]?

/-! ## Quoted values -/

/-- From behind an opening quote: what is quoted, and what follows the closing quote.  A
backslash takes the next character with it. -/
def closeQuote : Text → Option (Text × Text)
  | [] => none
  | '"' :: rest => some ([], rest)
  | ['\\'] => none
  | '\\' :: c :: rest => (closeQuote rest).map fun (value, rest) => ('\\' :: c :: value, rest)
  | c :: rest => (closeQuote rest).map fun (value, rest) => (c :: value, rest)

def quotedValueAndRest (text : Text) : Option (Text × Text) :=
  (splitOnce ['"'] text).bind fun (_, quoted) =>
    (closeQuote quoted).map fun (value, rest) => (value, trim rest)

def quotedValue (text : Text) : Option String :=
  (quotedValueAndRest text).map fun (value, _) => String.ofList value

def textAfterQuotedValue (text : Text) : Option Text :=
  (quotedValueAndRest text).map fun (_, rest) => rest

/-- Name and condition of a rule. -/
def ruleHeader (text : Text) : Option (Text × Text) :=
  match trim text with
  | '"' :: quoted =>
      (closeQuote quoted).bind fun (name, rest) =>
        (stripPrefix "when ".toList (trim rest)).bind fun condition =>
          if trim condition = [] then none else some (name, trim condition)
  | _ => none

def isSingleValue (text : Text) : Bool :=
  match trim text with
  | '"' :: quoted => (closeQuote quoted).any fun (_, rest) => trim rest = []
  | text => (words text).length = 1

def comparisonRhs (text op : Text) : Option Text :=
  ((splitOnce (' ' :: op ++ [' ']) text).or (splitOnce op text)).bind fun (_, rhs) =>
    if trim rhs = [] then none else some (trim rhs)

/-! ## Delimiters outside quotes and groups -/

/-- Where a scan over quotes and parentheses is. -/
structure QuoteState where
  depth : Nat := 0
  inString : Bool := false
  escaped : Bool := false
  deriving DecidableEq

namespace QuoteState

def next (s : QuoteState) (c : Char) : QuoteState :=
  if s.escaped then { s with escaped := false }
  else if s.inString && c = '\\' then { s with escaped := true }
  else if c = '"' then { s with inString := !s.inString }
  else if s.inString then s
  else if c = '(' then { s with depth := s.depth + 1 }
  else if c = ')' then { s with depth := s.depth - 1 }
  else s

def atTop (s : QuoteState) : Bool := !s.escaped && !s.inString && s.depth = 0

end QuoteState

/-- The pieces of a text around a delimiter, which begins with a blank; so many characters
of the last delimiter are still to be passed. -/
def splitPieces (delimiter : Text) : Nat → QuoteState → Text → List Text
  | _, _, [] => [[]]
  | skip + 1, s, _ :: rest => splitPieces delimiter skip s rest
  | 0, s, c :: rest =>
      if s.atTop && delimiter.isPrefixOf (c :: rest) then
        [] :: splitPieces delimiter (delimiter.length - 1) s rest
      else (splitPieces delimiter 0 (s.next c) rest).modifyHead (c :: ·)

def splitOutsideQuotes (text delimiter : Text) : List Text :=
  ((splitPieces delimiter 0 {} text).map trim).filter (· ≠ [])

def splitBoolExpression (text delimiter : Text) : Option (List Text) :=
  let parts := splitOutsideQuotes text delimiter
  if 1 < parts.length then some parts else none

/-- Not closed before its end. -/
def isBalancedParenthesized : QuoteState → Text → Bool
  | s, [] => s.depth = 0
  | s, c :: rest =>
      let closes := c = ')' && !s.escaped && !s.inString
      if closes && (s.next c).depth = 0 && rest ≠ [] then false
      else isBalancedParenthesized (s.next c) rest

def stripGroups : Nat → Text → Text
  | 0, text => text
  | n + 1, text =>
      match text with
      | '(' :: rest =>
          if rest.getLast? = some ')' && isBalancedParenthesized {} text then
            stripGroups n (trim rest.dropLast)
          else text
      | _ => text

def stripOuterGroup (text : Text) : Text := stripGroups (trim text).length (trim text)

end Voom
