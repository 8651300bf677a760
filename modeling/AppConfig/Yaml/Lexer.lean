import AppConfig.Yaml.Lexeme.Block
import AppConfig.Yaml.Lexeme.Directive
import AppConfig.Yaml.Lexeme.Name
import AppConfig.Yaml.Lexeme.Plain
import AppConfig.Yaml.Lexeme.Quoted

/-!
# AppConfig.Yaml.Lexer

From characters to tokens.

A mapping key needs no indicator of its own, so the scanner notes at each token that may begin a
key how many tokens precede it (`PendingKey`); when a `:` follows in time, the key token is put in
front of those read since. Indentation is tracked to open and close block collections.

`TokenStream.ofSource` gives all tokens. If a fault ends the text, tokens that a key might still
have been put in front of are not delivered.
-/

namespace AppConfig.Yaml

/-- How far a key may reach: to the end of its line, and no further than this many bytes. -/
def keyReach : Nat := 1024

namespace PendingKey

/-- The `:` has not come in time. -/
def isStale (k : PendingKey) (now : Mark) : Bool :=
  k.mark.line < now.line || k.mark.index + keyReach < now.index

end PendingKey

/-- Gives up keys whose `:` has not come in time; a required one is a fault. -/
def dropStaleKeys : Scan Unit := do
  let s ← get
  for k? in s.keys.reverse do
    if let some k := k? then
      if k.required && k.isStale s.mark then
        failIn .simpleKey k.mark .missingColon
  modify fun s => { s with keys := s.keys.map fun k? => k?.filter (!·.isStale s.mark) }

/-- Gives up the pending key of the current level; a required one is a fault. -/
def dropKey : Scan Unit := do
  match (← get).keys with
  | some k :: _ => if k.required then failIn .simpleKey k.mark .missingColon
  | _ => pure ()
  modify fun s => { s with keys := none :: s.keys.drop 1 }

/-- Notes that a key may begin here. -/
def noteKey : Scan Unit := do
  let s ← get
  if s.keyAllowed then
    dropKey
    let key : PendingKey :=
      { required := s.flowDepth == 0 && s.indent == (s.mark.column : Int)
        number := s.tokens.size
        mark := s.mark }
    modify fun s => { s with keys := some key :: s.keys.drop 1 }

def allowKey (allowed : Bool) : Scan Unit := modify fun s => { s with keyAllowed := allowed }

/-- Opens a block collection at a column deeper than the current one. Its token goes in front of
token `number`, or to the end. -/
def openBlock (column : Nat) (number : Option Nat) (kind : TokenKind) (mark : Mark) : Scan Unit :=
  modify fun s =>
    if s.flowDepth == 0 && s.indent < (column : Int) then
      let token : Token := ⟨kind, mark, mark⟩
      { s with
        indents := s.indent :: s.indents
        indent := column
        tokens := match number with
          | some n => s.tokens.insertIdxIfInBounds n token
          | none => s.tokens.push token }
    else s

/-- Closes the block collections that are indented deeper than a column. -/
def closeBlocks (column : Int) : Scan Unit := do
  if (← get).flowDepth == 0 then
    for _ in [0 : (← get).indents.length] do
      if (← get).indent ≤ column then break
      modify fun s => { s with
        tokens := s.tokens.push ⟨.blockEnd, s.mark, s.mark⟩
        indent := s.indents.headD (-1)
        indents := s.indents.drop 1 }

/-- Moves to the next token, over blanks, comments and breaks. Tabs may not indent. -/
def skipToToken : Scan Unit := do
  for _ in [0 : (← get).left + 1] do
    if (← get).mark.column == 0 && at? '\uFEFF' (← look 1) then skip 1
    let s ← get
    let tabs := s.flowDepth != 0 || !s.keyAllowed
    discard <| run fun c => c == ' ' || (tabs && c == '\t')
    if at? '#' (← look 1) then discard <| run (!isBreakChar ·)
    if !atBreak (← look 1) then break
    discard takeBreak
    if (← get).flowDepth == 0 then allowKey true

/-- An indicator of one character. -/
def scanIndicator (kind : TokenKind) : Scan Unit := do
  let start := (← get).mark
  skip 1
  emit kind start

def scanStreamEnd : Scan Unit := do
  modify fun s => if s.mark.column == 0 then s
    else { s with mark := { s.mark with column := 0, line := s.mark.line + 1 } }
  closeBlocks (-1)
  dropKey
  allowKey false
  emit .streamEnd (← get).mark
  modify fun s => { s with ended := true }

def scanDocumentIndicator (kind : TokenKind) : Scan Unit := do
  closeBlocks (-1)
  dropKey
  allowKey false
  let start := (← get).mark
  skip 3
  emit kind start

def scanFlowStart (kind : TokenKind) : Scan Unit := do
  noteKey
  modify fun s => { s with keys := none :: s.keys, flowDepth := s.flowDepth + 1 }
  allowKey true
  scanIndicator kind

def scanFlowEnd (kind : TokenKind) : Scan Unit := do
  dropKey
  modify fun s => if s.flowDepth == 0 then s
    else { s with keys := s.keys.drop 1, flowDepth := s.flowDepth - 1 }
  allowKey false
  scanIndicator kind

def scanFlowEntry : Scan Unit := do
  dropKey
  allowKey true
  scanIndicator .flowEntry

def scanBlockEntry : Scan Unit := do
  let s ← get
  if s.flowDepth == 0 then
    unless s.keyAllowed do failHere .blockEntryNotAllowed
    openBlock s.mark.column none .blockSequenceStart s.mark
  dropKey
  allowKey true
  scanIndicator .blockEntry

def scanKeyIndicator : Scan Unit := do
  let s ← get
  if s.flowDepth == 0 then
    unless s.keyAllowed do failHere .mappingKeyNotAllowed
    openBlock s.mark.column none .blockMappingStart s.mark
  dropKey
  allowKey (s.flowDepth == 0)
  scanIndicator .key

/-- A `:`. If a key is pending, its token is put in place, with the start of a block mapping in
front of it if the key opens one. -/
def scanValueIndicator : Scan Unit := do
  let s ← get
  match s.keys with
  | some k :: rest =>
    set { s with
      tokens := s.tokens.insertIdxIfInBounds k.number ⟨.key, k.mark, k.mark⟩
      keys := none :: rest }
    openBlock k.mark.column (some k.number) .blockMappingStart k.mark
    allowKey false
  | _ =>
    if s.flowDepth == 0 then
      unless s.keyAllowed do failHere .mappingValueNotAllowed
      openBlock s.mark.column none .blockMappingStart s.mark
    allowKey (s.flowDepth == 0)
  scanIndicator .value

/-- A token that may be, or begin, a key. -/
def scanKeyLike (scan : Scan Unit) : Scan Unit := do
  noteKey
  allowKey false
  scan

/-- Characters that cannot begin a plain scalar. -/
def isIndicator (c : Char) : Bool :=
  c ∈ ['-', '?', ':', ',', '[', ']', '\x7b', '\x7d', '#', '&', '*', '!', '|', '>', '\'', '"', '%',
    '@', '\x60']

/-- The text ahead can begin a plain scalar. -/
def atPlainStart (inFlow : Bool) : List Char → Bool
  | [] => false
  | c :: cs =>
    !(isBlankChar c || isBreakChar c || isIndicator c) ||
      (c == '-' && !atBlank cs) ||
      (!inFlow && (c == '?' || c == ':') && !atGap cs)

/-- Reads one more token, with the block structure in front of it. -/
def scanNext : Scan Unit := do
  skipToToken
  dropStaleKeys
  closeBlocks (← get).mark.column
  let ahead ← look 4
  let inFlow := (← get).flowDepth != 0
  let atMargin := (← get).mark.column == 0
  if atMargin && atDocumentIndicator ahead then
    return ← scanDocumentIndicator (if at? '-' ahead then .documentStart else .documentEnd)
  match ahead with
  | [] => scanStreamEnd
  | c :: cs =>
    if c == '%' && atMargin then
      closeBlocks (-1)
      dropKey
      allowKey false
      scanDirective
    else if c == '[' then scanFlowStart .flowSequenceStart
    else if c == '\x7b' then scanFlowStart .flowMappingStart
    else if c == ']' then scanFlowEnd .flowSequenceEnd
    else if c == '\x7d' then scanFlowEnd .flowMappingEnd
    else if c == ',' then scanFlowEntry
    else if c == '-' && atGap cs then scanBlockEntry
    else if c == '?' && (inFlow || atGap cs) then scanKeyIndicator
    else if c == ':' && (inFlow || atGap cs) then scanValueIndicator
    else if c == '*' then scanKeyLike (scanName .alias .alias)
    else if c == '&' then scanKeyLike (scanName .anchor .anchor)
    else if c == '!' then scanKeyLike scanTag
    else if (c == '|' || c == '>') && !inFlow then
      dropKey
      allowKey true
      scanBlockScalar (c == '|')
    else if c == '\'' || c == '"' then scanKeyLike (scanQuotedScalar (c == '\''))
    else if atPlainStart inFlow ahead then scanKeyLike scanPlainScalar
    else failIn .nextToken (← get).mark .noTokenStart

/-- The beginning of the stream. -/
def scanStreamStart : Scan Unit := do
  discard <| look 1
  modify fun s => { s with keys := [none], keyAllowed := true }
  emit .streamStart (← get).mark

/-- Tokens in front of which no key can be put any more. -/
def Scanner.settledCount (s : Scanner) : Nat :=
  s.keys.foldl (fun n k? => match k? with
    | some k => min n k.number
    | none => n) s.tokens.size

/-- Reads all tokens. Every round but the first and the last takes at least one character. -/
def scanAll : Scan Unit := do
  scanStreamStart
  for _ in [0 : (← get).left + 1] do
    if (← get).ended then break
    modify fun s => { s with settled := s.settledCount }
    scanNext
    dropStaleKeys

/-- The tokens of a text. -/
def TokenStream.ofSource (source : Source) : TokenStream :=
  match scanAll (Scanner.start source) with
  | .ok _ s => ⟨s.tokens, none⟩
  | .error fault s => ⟨s.tokens.extract 0 s.settled, some fault⟩

end AppConfig.Yaml
