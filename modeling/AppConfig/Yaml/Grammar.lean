import AppConfig.Text.Utf8
import AppConfig.Yaml.Event

/-!
# AppConfig.Yaml.Grammar

From tokens to events: a pushdown automaton over the grammar of documents, block collections and
flow collections.

* `Expect` — what the grammar expects next; the expectations behind it are a stack.
* `Grammar.step` — one event.
* `EventStream.ofTokens` — all events.
-/

namespace AppConfig.Yaml

inductive Expect where
  | implicitDocument
  | document
  | documentContent
  | documentEnd
  | blockNode
  | blockSequenceFirst
  | blockSequenceEntry
  | indentlessSequenceEntry
  | blockMappingFirst
  | blockMappingKey
  | blockMappingValue
  | flowSequenceFirst
  | flowSequenceEntry
  | flowPairKey
  | flowPairValue
  | flowPairEnd
  | flowMappingFirst
  | flowMappingKey
  | flowMappingValue
  | flowMappingNoValue
  | nothing
  deriving DecidableEq, Repr

structure Grammar where
  tokens : Array Token
  position : Nat
  /-- The fault behind the last token. -/
  cause : Option Fault
  expect : Expect
  stack : List Expect
  /-- Where the open collections began, innermost first. -/
  starts : List Mark
  /-- The tag handles of the document and what they stand for. -/
  handles : List (String × List UInt8)
  events : Array Event

abbrev Parse := EStateM Fault Grammar

namespace Grammar

def start (s : TokenStream) : Grammar where
  tokens := s.tokens
  position := 1
  cause := s.fault
  expect := .implicitDocument
  stack := []
  starts := []
  handles := []
  events := #[]

/-- The next token. -/
def peek : Parse Token := do
  let g ← get
  match g.tokens[g.position]? with
  | some t => pure t
  | none => throw (g.cause.getD (.bare .endOfStream .origin))

/-- Moves past the next token. -/
def next : Parse Unit := modify fun g => { g with position := g.position + 1 }

/-- The token after the next one, which becomes the next. -/
def advance : Parse Token := do
  next
  peek

def goto (e : Expect) : Parse Unit := modify fun g => { g with expect := e }

def push (e : Expect) : Parse Unit := modify fun g => { g with stack := e :: g.stack }

/-- Goes back to what is expected behind the current node. -/
def pop : Parse Unit :=
  modify fun g => { g with expect := g.stack.headD .nothing, stack := g.stack.drop 1 }

def pushStart (m : Mark) : Parse Unit := modify fun g => { g with starts := m :: g.starts }

def popStart : Parse Mark := do
  let m := (← get).starts.headD .origin
  modify fun g => { g with starts := g.starts.drop 1 }
  pure m

def emit (kind : EventKind) (mark : Mark) : Parse Unit :=
  modify fun g => { g with events := g.events.push ⟨kind, mark⟩ }

/-- An absent node is an empty plain scalar. -/
def emitEmpty (mark : Mark) : Parse Unit := emit (.scalar none none "" .plain) mark

/-- A tag from its handle and suffix. -/
def resolveTag (nodeStart tagMark : Mark) (handle : String) (suffix : List UInt8) :
    Parse (List UInt8) := do
  if handle.isEmpty then return suffix
  match (← get).handles.lookup handle with
  | some uri => return uri ++ suffix
  | none => throw (.within .node nodeStart .undefinedTagHandle tagMark)

/-- The properties of a node: an anchor and a tag, in any order. -/
def properties (nodeStart : Mark) : Parse (Option String × Option (List UInt8)) := do
  let t ← peek
  match t.kind with
  | .anchor name =>
    let u ← advance
    match u.kind with
    | .tag handle suffix =>
      next
      discard peek
      return (some name, some (← resolveTag nodeStart u.start handle suffix))
    | _ => return (some name, none)
  | .tag handle suffix =>
    let u ← advance
    match u.kind with
    | .anchor name =>
      next
      discard peek
      return (some name, some (← resolveTag nodeStart t.start handle suffix))
    | _ => return (none, some (← resolveTag nodeStart t.start handle suffix))
  | _ => return (none, none)

/-- A node. In a block mapping, a sequence may stand at the column of its key. -/
def node (block indentless : Bool) : Parse Unit := do
  let first ← peek
  let mark := first.start
  if let .alias name := first.kind then
    pop
    emit (.alias name) mark
    next
    return
  let (anchor, tag) ← properties mark
  let t ← peek
  if indentless && t.kind == .blockEntry then
    goto .indentlessSequenceEntry
    return ← emit (.sequenceStart anchor tag) mark
  match t.kind with
  | .scalar text style =>
    pop
    emit (.scalar anchor tag text style) mark
    next
  | .flowSequenceStart =>
    goto .flowSequenceFirst
    emit (.sequenceStart anchor tag) mark
  | .flowMappingStart =>
    goto .flowMappingFirst
    emit (.mappingStart anchor tag) mark
  | kind =>
    if block && kind == .blockSequenceStart then
      goto .blockSequenceFirst
      emit (.sequenceStart anchor tag) mark
    else if block && kind == .blockMappingStart then
      goto .blockMappingFirst
      emit (.mappingStart anchor tag) mark
    else if anchor.isSome || tag.isSome then
      pop
      emit (.scalar anchor tag "" .plain) mark
    else
      throw (.within (if block then .blockNode else .flowNode) mark .missingNodeContent t.start)

/-- The tag handles every document has. -/
def defaultHandles : List (String × List UInt8) :=
  [("!", [0x21]), ("!!", Text.utf8 "tag:yaml.org,2002:".toList)]

/-- The directives in front of a document. -/
def directives : Parse Unit := do
  let mut version := false
  let mut handles : List (String × List UInt8) := []
  for _ in [0 : (← get).tokens.size] do
    let t ← peek
    match t.kind with
    | .versionDirective major minor =>
      if version then throw (.bare .duplicateVersionDirective t.start)
      unless major == 1 && (minor == 1 || minor == 2) do
        throw (.bare .incompatibleVersion t.start)
      version := true
      next
    | .tagDirective handle uri =>
      if (handles.lookup handle).isSome then throw (.bare .duplicateTagDirective t.start)
      handles := handles ++ [(handle, uri)]
      next
    | _ => break
  let own := handles
  modify fun g => { g with handles := own ++ defaultHandles }

def document (implicit : Bool) : Parse Unit := do
  unless implicit do
    for _ in [0 : (← get).tokens.size] do
      if (← peek).kind == .documentEnd then next else break
  let t ← peek
  match t.kind with
  | .streamEnd =>
    goto .nothing
    emit .streamEnd t.start
  | kind =>
    let explicitStart := match kind with
      | .versionDirective _ _ => true
      | .tagDirective _ _ => true
      | .documentStart => true
      | _ => false
    if implicit && !explicitStart then
      directives
      push .documentEnd
      goto .blockNode
      emit .documentStart t.start
    else
      directives
      let u ← peek
      unless u.kind == .documentStart do
        throw (.bare .missingDocumentStart u.start)
      push .documentEnd
      goto .documentContent
      emit .documentStart t.start
      next

def documentContent : Parse Unit := do
  let t ← peek
  let absent := match t.kind with
    | .versionDirective _ _ => true
    | .tagDirective _ _ => true
    | .documentStart => true
    | .documentEnd => true
    | .streamEnd => true
    | _ => false
  if absent then
    pop
    emitEmpty t.start
  else node true false

def documentEnd : Parse Unit := do
  let t ← peek
  if t.kind == .documentEnd then next
  goto .document
  emit .documentEnd t.start

/-- Steps past the token that opens a collection. -/
def enter : Parse Unit := do
  pushStart (← peek).start
  next

/-- Closes a collection at the token that ends it. -/
def leave (kind : EventKind) (t : Token) : Parse Unit := do
  pop
  discard popStart
  emit kind t.start
  next

def blockSequenceEntry : Parse Unit := do
  let t ← peek
  if t.kind == .blockEntry then
    let u ← advance
    if u.kind == .blockEntry || u.kind == .blockEnd then
      goto .blockSequenceEntry
      emitEmpty t.stop
    else
      push .blockSequenceEntry
      node true false
  else if t.kind == .blockEnd then leave .sequenceEnd t
  else throw (.within .blockCollection (← popStart) .missingDash t.start)

def indentlessSequenceEntry : Parse Unit := do
  let t ← peek
  if t.kind == .blockEntry then
    let u ← advance
    if u.kind == .blockEntry || u.kind == .key || u.kind == .value || u.kind == .blockEnd then
      goto .indentlessSequenceEntry
      emitEmpty t.stop
    else
      push .indentlessSequenceEntry
      node true false
  else
    pop
    emit .sequenceEnd t.start

def blockMappingKey : Parse Unit := do
  let t ← peek
  if t.kind == .key then
    let u ← advance
    if u.kind == .key || u.kind == .value || u.kind == .blockEnd then
      goto .blockMappingValue
      emitEmpty t.stop
    else
      push .blockMappingValue
      node true true
  else if t.kind == .blockEnd then leave .mappingEnd t
  else throw (.within .blockMapping (← popStart) .missingKey t.start)

def blockMappingValue : Parse Unit := do
  let t ← peek
  if t.kind == .value then
    let u ← advance
    if u.kind == .key || u.kind == .value || u.kind == .blockEnd then
      goto .blockMappingKey
      emitEmpty t.stop
    else
      push .blockMappingKey
      node true true
  else
    goto .blockMappingKey
    emitEmpty t.start

def flowSequenceEntry (first : Bool) : Parse Unit := do
  let mut t ← peek
  if t.kind != .flowSequenceEnd then
    unless first do
      if t.kind == .flowEntry then t ← advance
      else throw (.within .flowSequence (← popStart) .missingCommaOrBracket t.start)
    if t.kind == .key then
      goto .flowPairKey
      emit (.mappingStart none none) t.start
      return ← next
    if t.kind != .flowSequenceEnd then
      push .flowSequenceEntry
      return ← node false false
  leave .sequenceEnd t

/-- The key of a mapping with one pair inside a flow sequence. An absent key takes the token that
stands in its place. -/
def flowPairKey : Parse Unit := do
  let t ← peek
  if t.kind == .value || t.kind == .flowEntry || t.kind == .flowSequenceEnd then
    next
    goto .flowPairValue
    emitEmpty t.stop
  else
    push .flowPairValue
    node false false

def flowPairValue : Parse Unit := do
  let mut t ← peek
  if t.kind == .value then
    t ← advance
    if t.kind != .flowEntry && t.kind != .flowSequenceEnd then
      push .flowPairEnd
      return ← node false false
  goto .flowPairEnd
  emitEmpty t.start

def flowPairEnd : Parse Unit := do
  let t ← peek
  goto .flowSequenceEntry
  emit .mappingEnd t.start

def flowMappingKey (first : Bool) : Parse Unit := do
  let mut t ← peek
  if t.kind != .flowMappingEnd then
    unless first do
      if t.kind == .flowEntry then t ← advance
      else throw (.within .flowMapping (← popStart) .missingCommaOrBrace t.start)
    if t.kind == .key then
      t ← advance
      if t.kind != .value && t.kind != .flowEntry && t.kind != .flowMappingEnd then
        push .flowMappingValue
        return ← node false false
      goto .flowMappingValue
      return ← emitEmpty t.start
    if t.kind != .flowMappingEnd then
      push .flowMappingNoValue
      return ← node false false
  leave .mappingEnd t

def flowMappingValue (present : Bool) : Parse Unit := do
  let mut t ← peek
  if present && t.kind == .value then
    t ← advance
    if t.kind != .flowEntry && t.kind != .flowMappingEnd then
      push .flowMappingKey
      return ← node false false
  goto .flowMappingKey
  emitEmpty t.start

/-- One event. -/
def step : Parse Unit := do
  match (← get).expect with
  | .implicitDocument => document true
  | .document => document false
  | .documentContent => documentContent
  | .documentEnd => documentEnd
  | .blockNode => node true false
  | .blockSequenceFirst => enter; blockSequenceEntry
  | .blockSequenceEntry => blockSequenceEntry
  | .indentlessSequenceEntry => indentlessSequenceEntry
  | .blockMappingFirst => enter; blockMappingKey
  | .blockMappingKey => blockMappingKey
  | .blockMappingValue => blockMappingValue
  | .flowSequenceFirst => enter; flowSequenceEntry true
  | .flowSequenceEntry => flowSequenceEntry false
  | .flowPairKey => flowPairKey
  | .flowPairValue => flowPairValue
  | .flowPairEnd => flowPairEnd
  | .flowMappingFirst => enter; flowMappingKey true
  | .flowMappingKey => flowMappingKey false
  | .flowMappingValue => flowMappingValue true
  | .flowMappingNoValue => flowMappingValue false
  | .nothing => pure ()

/-- All events. Between two tokens the grammar makes only a few steps. -/
def run : Parse Unit := do
  discard peek
  for _ in [0 : 8 * (← get).tokens.size + 16] do
    if (← get).expect == .nothing then break
    step

end Grammar

/-- The events of a token stream. -/
def EventStream.ofTokens (s : TokenStream) : EventStream :=
  match Grammar.run (Grammar.start s) with
  | .ok _ g => ⟨g.events, none⟩
  | .error fault g => ⟨g.events, some fault⟩

end AppConfig.Yaml
