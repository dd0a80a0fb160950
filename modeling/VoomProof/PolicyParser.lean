import VoomProof.PolicyText

/-!
# The parser of policy sources

`syntax/parser.rs`. A parser holds the source in front of its cursor and the nesting
depth it has reached; what lies behind the cursor it never reads again. The extent of a
statement is found by a scan: over its header, which ends at a line end, a comment, a
closing brace or the keyword of another statement, and, where the header ends at an
opening brace, over the body up to the brace that closes it. The body is then parsed a
second time, from its opening brace on.

The recursion is given a number of levels, and each of its loops takes at least one character a
round.
-/

namespace Voom

open RustText

def MAX_NESTING_DEPTH : Nat := 64

structure ParseError where
  code : DiagnosticCode
  offset : Nat
  message : String
  deriving DecidableEq

structure Parser where
  rest : Text
  cursor : Nat
  depth : Nat

/-! ## Characters -/

def isIdentStart (c : Char) : Bool := c.isAlpha || c = '_'

def isIdentContinue (c : Char) : Bool := c.isAlphanum || c = '_' || c = '-' || c = '.'

def startsComment : Text → Bool
  | '/' :: '/' :: _ => true
  | _ => false

/-- Behind white space and comments; `true` inside a comment. -/
def skipGap : Bool → Text → Text
  | _, [] => []
  | true, c :: rest => skipGap (c ≠ '\n') rest
  | false, c :: rest =>
      if isAsciiWhitespace c then skipGap false rest
      else if startsComment (c :: rest) then skipGap true rest
      else c :: rest

/-- The identifier a text begins with. -/
def identifierAt : Text → Option Text
  | [] => none
  | c :: rest => if isIdentStart c then some (c :: rest.takeWhile isIdentContinue) else none

namespace Parser

/-- The position of what is left at some later point. -/
def position (p : Parser) (rest : Text) : Nat := p.cursor + (p.rest.length - rest.length)

def moveTo (p : Parser) (rest : Text) : Parser :=
  { p with rest := rest, cursor := p.position rest }

/-- The source from the cursor up to a later point. -/
def upTo (p : Parser) (rest : Text) : Text := p.rest.take (p.rest.length - rest.length)

def errorAt (offset : Nat) (message : String) : ParseError := ⟨.unexpectedToken, offset, message⟩

def skipWsAndComments (p : Parser) : Parser := p.moveTo (skipGap false p.rest)

def consumeLineComment (p : Parser) : Parser :=
  if startsComment p.rest then p.moveTo (p.rest.dropWhile (· ≠ '\n')) else p

def peekIdentifier (p : Parser) : Option (Spanned String) :=
  (identifierAt p.rest).map fun name =>
    ⟨String.ofList name, p.cursor, p.cursor + name.length⟩

def parseIdentifier (p : Parser) : Except ParseError (Spanned String × Parser) :=
  let p := p.skipWsAndComments
  match identifierAt p.rest with
  | some name =>
      .ok (⟨String.ofList name, p.cursor, p.cursor + name.length⟩,
        p.moveTo (p.rest.drop name.length))
  | none => .error (errorAt p.cursor "expected identifier")

def expectKeyword (p : Parser) (expected : String) : Except ParseError Parser := do
  let (ident, q) ← p.parseIdentifier
  if ident.value = expected then return q
  else .error (errorAt ident.span.start ("expected `" ++ expected ++ "`"))

def expectByte (p : Parser) (expected : Char) : Except ParseError Parser :=
  let p := p.skipWsAndComments
  if p.rest.head? = some expected then .ok (p.moveTo (p.rest.drop 1))
  else .error (errorAt p.cursor ("expected `" ++ String.singleton expected ++ "`"))

def parseString (p : Parser) : Except ParseError (Spanned String × Parser) := do
  let p := p.skipWsAndComments
  let q ← p.expectByte '"'
  match closeQuote q.rest with
  | some (value, rest) => .ok (⟨String.ofList value, p.cursor, p.position rest⟩, p.moveTo rest)
  | none => .error (errorAt p.cursor "unterminated string")

/-! ## Loops -/

/-- Items up to the point where `stop` ends the loop, with white space and comments skipped
before each. -/
def many {α : Type} (stop : Parser → Except ParseError (Option Parser))
    (item : Parser → Except ParseError (α × Parser)) :
    Nat → Parser → Except ParseError (List α × Parser)
  | 0, p => .error (errorAt p.cursor "expected an end")
  | rounds + 1, p => do
      match ← stop p.skipWsAndComments with
      | some q => return ([], q)
      | none =>
          let (a, q) ← item p.skipWsAndComments
          let (as, q) ← many stop item rounds q
          return (a :: as, q)

/-- A round for every character that is left, and one to find the end. -/
def rounds (p : Parser) : Nat := p.rest.length + 1

/-- The loop ends behind this character; the source must not end first. -/
def closedBy (close : Char) (message : String) (p : Parser) : Except ParseError (Option Parser) :=
  if p.rest.head? = some close then .ok (some (p.moveTo (p.rest.drop 1)))
  else if p.rest = [] then .error (errorAt p.cursor message)
  else .ok none

/-! ## Values and settings -/

def isExprEnd (c : Char) : Bool := isAsciiWhitespace c || c = ',' || c = ']' || c = '}'

/-- A value that is neither quoted nor a list. -/
def bareExpr (token : Text) (span : SourceSpan) : ExprAst :=
  let text := String.ofList token
  if text = "true" then .boolean ⟨true, span⟩
  else if text = "false" then .boolean ⟨false, span⟩
  else if token.all Char.isDigit then .number ⟨text, span⟩
  else if '.' ∈ token then .fieldPath ⟨text, span⟩
  else .identifier ⟨text, span⟩

def parseBare (p : Parser) : Except ParseError (ExprAst × Parser) :=
  let token := p.rest.takeWhile (!isExprEnd ·)
  if token = [] then .error (errorAt p.cursor "expected value")
  else
    let q := p.moveTo (p.rest.drop token.length)
    .ok (bareExpr token ⟨p.cursor, q.cursor⟩, q)

/-- An element and the comma that may follow it. -/
def listElement (parseExpr : Parser → Except ParseError (ExprAst × Parser)) (p : Parser) :
    Except ParseError (ExprAst × Parser) := do
  let (value, q) ← parseExpr p
  let q := q.skipWsAndComments
  return (value, if q.rest.head? = some ',' then q.moveTo (q.rest.drop 1) else q)

def parseList (parseExpr : Parser → Except ParseError (ExprAst × Parser)) (p : Parser) :
    Except ParseError (ExprAst × Parser) := do
  let q ← p.expectByte '['
  let inner := { q with depth := p.depth + 1 }
  if inner.depth > MAX_NESTING_DEPTH then
    .error ⟨.nestingDepthExceeded, inner.cursor, "list nesting too deep (max 64)"⟩
  else
    let (values, r) ← many (closedBy ']' "expected `]` to close list") (listElement parseExpr)
      inner.rounds inner
    return (.list values ⟨p.cursor, r.cursor⟩, { r with depth := p.depth })

def parseExprAt : Nat → Parser → Except ParseError (ExprAst × Parser)
  | 0, p => .error ⟨.nestingDepthExceeded, p.cursor, "list nesting too deep (max 64)"⟩
  | levels + 1, p => do
      let p := p.skipWsAndComments
      if p.rest.head? = some '"' then
        let (value, q) ← p.parseString
        return (.string value, q)
      else if p.rest.head? = some '[' then parseList (parseExprAt levels) p
      else parseBare p

/-- A list is entered at most so often before its depth is rejected. -/
def parseExpr (p : Parser) : Except ParseError (ExprAst × Parser) :=
  parseExprAt (MAX_NESTING_DEPTH + 1) p

/-- `key: value`. -/
def parseSetting (p : Parser) : Except ParseError (SettingAst × Parser) := do
  let (key, q) ← p.parseIdentifier
  let q ← q.expectByte ':'
  let (value, q) ← q.parseExpr
  return (⟨key, value⟩, q)

def parseSettingList (p : Parser) : Except ParseError (List SettingAst × Parser) :=
  many (closedBy '}' "expected `\x7d` to close settings block") parseSetting p.rounds p

/-- `key value`. -/
def parseSpaceSetting (p : Parser) : Except ParseError (SettingAst × Parser) := do
  let (key, q) ← p.parseIdentifier
  let (value, q) ← q.parseExpr
  return (⟨key, value⟩, q)

def parseSpaceSettingList (p : Parser) : Except ParseError (List SettingAst × Parser) :=
  many (closedBy '}' "expected `\x7d` to close synthesize block") parseSpaceSetting p.rounds p

def parseSettingBlock (p : Parser) : Except ParseError (List SettingAst × Parser) := do
  (← p.expectByte '{').parseSettingList

/-! ## The extent of a statement -/

def statementKeywords : List String :=
  ["depends_on", "skip", "run_if", "on_error", "container", "keep", "remove", "order",
    "defaults", "actions", "clear_tags", "set_tag", "delete_tag", "when", "rules", "rule",
    "extend", "transcode", "synthesize", "ensure", "place", "verify"]

/-- Whether another statement begins here, behind the character `before`. -/
def startsStatementKeyword (keyword : String) (before : Char) (text : Text) : Bool :=
  isAsciiWhitespace before &&
    match identifierAt text with
    | none => false
    | some name =>
        let candidate := String.ofList name
        if (keyword = "skip" ∨ keyword = "rule") ∧ candidate = "when" then false
        else candidate ∈ statementKeywords

/-- A scan is outside a string, or inside one that began where so many characters were
left, perhaps behind a backslash. -/
inductive ScanQuote where
  | outside
  | inside (left : Nat) (escaped : Bool)
  deriving DecidableEq

def ScanQuote.next (c : Char) : ScanQuote → Nat → ScanQuote
  | .outside, left => if c = '"' then .inside left false else .outside
  | .inside start true, _ => .inside start false
  | .inside start false, _ =>
      if c = '\\' then .inside start true
      else if c = '"' then .outside
      else .inside start false

/-- Where the header of a statement ends: at an opening brace, or at what ends the
statement.  `before` is the character just passed, none at the start.  A string that is
not closed is reported by what was left where it began. -/
def scanHeader (keyword : String) : Option Char → ScanQuote → Text → Except Nat Text
  | _, .outside, [] => .ok []
  | _, .inside left _, [] => .error left
  | _, .inside left escaped, c :: rest =>
      scanHeader keyword (some c) (ScanQuote.next c (.inside left escaped) 0) rest
  | before, .outside, c :: rest =>
      if before.any (startsStatementKeyword keyword · (c :: rest)) then .ok (c :: rest)
      else if startsComment (c :: rest) || c = '\n' || c = '}' || c = '{' then .ok (c :: rest)
      else scanHeader keyword (some c) (ScanQuote.next c .outside (rest.length + 1)) rest

/-- Where the body of a statement ends: at the brace that closes it, if there is one.  So
many braces are open inside the one that opens the body. -/
def scanBlock : Nat → ScanQuote → Text → Except Nat (Option Text)
  | _, .outside, [] => .ok none
  | _, .inside left _, [] => .error left
  | nested, .inside left escaped, c :: rest =>
      scanBlock nested (ScanQuote.next c (.inside left escaped) 0) rest
  | nested, .outside, c :: rest =>
      if c = '}' then
        match nested with
        | 0 => .ok (some (c :: rest))
        | nested + 1 => scanBlock nested .outside rest
      else if c = '{' then scanBlock (nested + 1) .outside rest
      else scanBlock nested (ScanQuote.next c .outside (rest.length + 1)) rest

/-! ## Statements -/

/-- The error of a scan that began at `p`. -/
def unterminatedString (p : Parser) (left : Nat) : ParseError :=
  errorAt (p.cursor + (p.rest.length - left)) "unterminated string"

/-- The text between the keyword of a block and its brace, if there is any. -/
def statementBlockName (afterKeyword : Parser) (openBrace : Text) : Option (Spanned Text) :=
  let between := afterKeyword.upTo openBrace
  let start := afterKeyword.cursor + (between.length - (trimStart between).length)
  if trim between = [] then none
  else some ⟨trim between, start, start + (trim between).length⟩

/-- Statements from inside a body until the cursor reaches its end. -/
def parseStatementsUntil (parseStatement : Parser → Except ParseError (StatementAst × Parser))
    (closeBrace : Nat)
    (p : Parser) : Except ParseError (List StatementAst × Parser) :=
  many (fun p => .ok (if p.cursor ≥ closeBrace then some p else none)) parseStatement p.rounds p

/-- The statement at `start` with the body behind `openBrace`, closed at `closeBrace`. -/
def parseBody (parseStatement : Parser → Except ParseError (StatementAst × Parser))
    (start afterKeyword : Parser)
    (keyword : Spanned String) (openBrace closeBrace : Text) : Except ParseError StatementAst := do
  let span : SourceSpan := ⟨start.cursor, start.position (closeBrace.drop 1)⟩
  let inner := { start.moveTo (openBrace.drop 1) with depth := start.depth + 1 }
  let header := trim (start.upTo openBrace)
  if keyword.value = "transcode" then
    let (settings, _) ← inner.parseSettingList
    return .transcodeInline keyword header settings span
  else if keyword.value = "synthesize" then
    let (settings, _) ← inner.parseSpaceSettingList
    return .synthesizeInline keyword header settings span
  else
    let (statements, _) ← parseStatementsUntil parseStatement (start.position closeBrace) inner
    return .block keyword (statementBlockName afterKeyword openBrace) statements span

/-- A statement whose nested statements are parsed by `parseStatement`. -/
def parseStatementWith (parseStatement : Parser → Except ParseError (StatementAst × Parser))
    (p : Parser) :
    Except ParseError (StatementAst × Parser) := do
  if p.depth > MAX_NESTING_DEPTH then
    .error ⟨.nestingDepthExceeded, p.cursor, "block nesting too deep (max 64)"⟩
  else
    let start := p.skipWsAndComments
    let (keyword, afterKeyword) ← start.parseIdentifier
    let headerEnd ← (scanHeader keyword.value none .outside afterKeyword.rest).mapError
      afterKeyword.unterminatedString
    if headerEnd.head? = some '{' then
      let closing ← (scanBlock 0 .outside (headerEnd.drop 1)).mapError
        afterKeyword.unterminatedString
      match closing with
      | none =>
          .error (errorAt (start.position headerEnd) "expected `\x7d` to close statement block")
      | some closeBrace =>
          let statement ← parseBody parseStatement start afterKeyword keyword headerEnd closeBrace
          return (statement, (start.moveTo (closeBrace.drop 1)).consumeLineComment)
    else
      let span : SourceSpan := ⟨start.cursor, start.position headerEnd⟩
      return (.raw keyword (trim (start.upTo headerEnd)) span,
        (start.moveTo headerEnd).consumeLineComment)

def parseStatementAt : Nat → Parser → Except ParseError (StatementAst × Parser)
  | 0, p => .error ⟨.nestingDepthExceeded, p.cursor, "block nesting too deep (max 64)"⟩
  | levels + 1, p => parseStatementWith (parseStatementAt levels) p

/-- A body is entered at most so often before its depth is rejected. -/
def parseStatement (p : Parser) : Except ParseError (StatementAst × Parser) :=
  parseStatementAt (MAX_NESTING_DEPTH + 2) p

/-! ## Phases and the policy -/

def isPhaseControl (keyword : String) : Bool :=
  keyword = "depends_on" || keyword = "skip" || keyword = "run_if" || keyword = "on_error"

def parsePhase (p : Parser) : Except ParseError (PhaseAst × Parser) := do
  let q ← p.expectKeyword "phase"
  let (name, q) ← q.parseIdentifier
  let q ← q.expectByte '{'
  let (statements, q) ← many (closedBy '}' "expected `\x7d` to close phase block") parseStatement
    q.rounds q
  let isControl := fun s : StatementAst => isPhaseControl s.keyword.value
  return (⟨name, statements.filter isControl, statements.filter (!isControl ·)⟩, q)

inductive PolicyItem where
  | «extends» (parent : Spanned String)
  | metadata (settings : List SettingAst)
  | config (settings : List SettingAst)
  | phase (phase : PhaseAst)
  | unknown (statement : StatementAst)

def parsePolicyItem (p : Parser) : Except ParseError (PolicyItem × Parser) :=
  match p.peekIdentifier with
  | none => .error (errorAt p.cursor "expected top-level policy item")
  | some keyword =>
      let q := p.moveTo (p.rest.drop keyword.value.length)
      if keyword.value = "extends" then q.parseString.map fun (v, q) => (.extends v, q)
      else if keyword.value = "metadata" then
        q.parseSettingBlock.map fun (v, q) => (.metadata v, q)
      else if keyword.value = "config" then q.parseSettingBlock.map fun (v, q) => (.config v, q)
      else if keyword.value = "phase" then p.parsePhase.map fun (v, q) => (.phase v, q)
      else p.parseStatement.map fun (v, q) => (.unknown v, q)

/-- A second `extends`, `metadata` or `config` replaces the first. -/
def addItem (ast : PolicyAst) : PolicyItem → PolicyAst
  | .extends parent => { ast with «extends» := some parent }
  | .metadata settings => { ast with metadata := settings }
  | .config settings => { ast with config := settings }
  | .phase phase => { ast with phases := ast.phases ++ [phase] }
  | .unknown statement => { ast with unknownTopLevel := ast.unknownTopLevel ++ [statement] }

def parsePolicy (p : Parser) : Except ParseError PolicyAst := do
  let q ← p.expectKeyword "policy"
  let (name, q) ← q.parseString
  let q ← q.expectByte '{'
  let (items, q) ← many (closedBy '}' "expected `\x7d` to close policy block") parsePolicyItem
    q.rounds q
  let q := q.skipWsAndComments
  if q.rest = [] then return items.foldl addItem ⟨name, none, [], [], [], []⟩
  else .error (errorAt q.cursor "unexpected content after policy block")

end Parser

def parsePolicySource (source : Text) : Except ParseError PolicyAst :=
  Parser.parsePolicy ⟨source, 0, 0⟩

end Voom
