import VoomProof.CompiledPolicy
import VoomProof.PolicyText

/-!
# Track filters

The parser of `compile/track_filter.rs`, used by validation and by lowering. Its errors
carry no data. A filter is split at its top-level delimiters, a negation or an outer group
is taken off, and every level of that spends one of the levels that remain.
-/

namespace Voom

open RustText

namespace TrackFilterParser

def MAX_FILTER_DEPTH : Nat := 64

/-! ## Splitting -/

/-- A parenthesis that closes nothing. -/
def unmatched (s : QuoteState) (c : Char) : Bool :=
  c = ')' && !s.escaped && !s.inString && s.depth = 0

/-- The pieces around a delimiter, where every group and string is closed. -/
def splitTopLevelPieces (delimiter : Text) : Nat → QuoteState → Text → Option (List Text)
  | _, s, [] => if s.inString || s.escaped || s.depth ≠ 0 then none else some [[]]
  | skip + 1, s, _ :: rest => splitTopLevelPieces delimiter skip s rest
  | 0, s, c :: rest =>
      if s.atTop && delimiter.isPrefixOf (c :: rest) then
        (splitTopLevelPieces delimiter (delimiter.length - 1) s rest).map ([] :: ·)
      else if unmatched s c then none
      else (splitTopLevelPieces delimiter 0 (s.next c) rest).map (·.modifyHead (c :: ·))

/-- The parts of a text that is split at least once; `some none` where it is not. -/
def splitTopLevel (text delimiter : Text) : Option (Option (List Text)) :=
  (splitTopLevelPieces delimiter 0 {} text).map fun pieces =>
    if 1 < pieces.length then some (pieces.map trim) else none

def closesAtEnd : QuoteState → Text → Bool
  | _, [] => false
  | s, c :: rest =>
      if unmatched s c then false
      else if c = ')' && (s.next c).atTop then rest = []
      else closesAtEnd (s.next c) rest

def ownsOuterGroup (text : Text) : Bool :=
  text.head? = some '(' && text.getLast? = some ')' && closesAtEnd {} text

/-! ## Leaves -/

def isStableTokenByte (c : Char) : Bool := c.isLower || c.isDigit || c = '_' || c = '-'

def skipWhitespace (text : Text) : Text := text.dropWhile isAsciiWhitespace

/-- A quoted token, and what follows it. -/
def quotedTokenAt : Text → Option (String × Text)
  | '"' :: rest =>
      (splitOnce ['"'] rest).bind fun (token, after) =>
        if token ≠ [] ∧ token.all isStableTokenByte then some (String.ofList token, after) else none
  | _ => none

def parseQuotedToken (text : Text) : Option String :=
  (quotedTokenAt (trim text)).bind fun (token, after) =>
    if trim after = [] then some token else none

/-- The tokens of a list from behind its bracket, one for a comma at most. -/
def quotedTokens : Nat → Text → Option (List String)
  | 0, _ => none
  | n + 1, text =>
      (quotedTokenAt text).bind fun (token, after) =>
        match skipWhitespace after with
        | ',' :: rest => (quotedTokens n (skipWhitespace rest)).map (token :: ·)
        | ']' :: rest => if trim rest = [] then some [token] else none
        | _ => none

def parseQuotedTokenList (text : Text) : Option (List String) :=
  match trim text with
  | '[' :: rest => quotedTokens (rest.length + 1) (skipWhitespace rest)
  | _ => none

def numericOp (token : Text) : Option ComparisonOp :=
  match String.ofList token with
  | "==" => some .eq
  | "!=" => some .ne
  | "<" => some .lt
  | "<=" => some .lte
  | ">" => some .gt
  | ">=" => some .gte
  | _ => none

def parseChannels (text : Text) : Option TrackFilter :=
  match splitAsciiWhitespace text with
  | [op, value] =>
      (numericOp op).bind fun op =>
        if value.all Char.isDigit then (parseUnsigned 64 value).map (.channels op) else none
  | _ => none

/-- The value is cut at its last quote, and at those just before it. -/
def parseTitle (text : Text) : Option TrackFilter :=
  (stripPrefix "title contains ".toList text).bind fun value =>
    match trim value with
    | '"' :: quoted =>
        (closeQuote quoted).bind fun (inner, rest) =>
          if rest = [] ∧ inner ≠ [] then
            some (.titleContains (String.ofList (trimEndMatches (· = '"') quoted)))
          else none
    | _ => none

def parseScalarLeaf (text : Text) : Option TrackFilter :=
  match stripPrefix "channels ".toList text with
  | some value => parseChannels value
  | none =>
      match String.ofList text with
      | "commentary" => some .commentary
      | "forced" => some .forced
      | "default" => some .default
      | "font" => some .font
      | _ => parseTitle text

def parseLeaf (text : Text) : Option TrackFilter :=
  match stripPrefix "language == ".toList text with
  | some value => (parseQuotedToken value).map fun token => .languageIn [token]
  | none =>
      match stripPrefix "language in ".toList text with
      | some value => (parseQuotedTokenList value).map .languageIn
      | none =>
          match stripPrefix "codec in ".toList text with
          | some value => (parseQuotedTokenList value).map .codecIn
          | none => parseScalarLeaf text

/-! ## Filters -/

/-- A filter whose parts are parsed by `nested`, which spends a level. -/
def parseExpressionWith (nested : Text → Option TrackFilter) (text : Text) : Option TrackFilter :=
  if text = [] then none
  else
    (splitTopLevel text " or ".toList).bind fun
      | some parts => (parts.mapM nested).map .or
      | none =>
          (splitTopLevel text " and ".toList).bind fun
            | some parts => (parts.mapM nested).map .and
            | none =>
                match stripPrefix "not ".toList text with
                | some inner => (nested (trim inner)).map .not
                | none =>
                    if ownsOuterGroup text then nested (trim (text.drop 1).dropLast)
                    else parseLeaf text

def parseExpression : Nat → Text → Option TrackFilter
  | 0 => parseExpressionWith fun _ => none
  | remaining + 1 => parseExpressionWith (parseExpression remaining)

end TrackFilterParser

open TrackFilterParser

def parseTrackFilter (text : Text) : Option TrackFilter :=
  parseExpression MAX_FILTER_DEPTH (trim text)

/-- The filter behind `where`; `some none` where there is none. -/
def parseOptionalFilter (text : Text) : Option (Option TrackFilter) :=
  match splitOnce " where ".toList text with
  | some (_, filter) => (parseTrackFilter filter).map some
  | none => if "where".toList ∈ splitAsciiWhitespace text then none else some none

end Voom
