import AppConfig.Text.Utf8
import AppConfig.Yaml.Event
import AppConfig.Yaml.Failure

/-!
# AppConfig.Yaml.Tree

From events to the value of a document.

* `Document` — the events of the first document, aliases resolved to numbers of anchors.
* `Document.value` — its value. Collections nest at most 128 deep, and aliases are followed at
  most a hundred times as often as the document has events.
-/

namespace AppConfig.Yaml

/-- A node or the end of a collection. -/
inductive Node where
  | alias (anchor : Nat)
  | scalar (tag : Option (List UInt8)) (text : String) (style : ScalarStyle)
  | seq (tag : Option (List UInt8))
  | seqEnd
  | map (tag : Option (List UInt8))
  | mapEnd
  /-- The absent node of a stream without documents. -/
  | absent

/-- The tag of a node. -/
def Node.tag? : Node → Option (List UInt8)
  | .scalar tag _ _ => tag
  | .seq tag => tag
  | .map tag => tag
  | _ => none

structure Document where
  nodes : Array (Node × Mark)
  /-- What ended the events early. -/
  failure : Option Failure
  /-- For each number of an anchor the node it stands at; a later entry hides an earlier one. -/
  targets : List (Nat × Nat)

namespace Document

/-- The anchors seen so far with their numbers. -/
abbrev Anchors := List (String × Nat)

/-- Notes an anchor. Its number is the count of names seen before it. -/
def noteAnchor (anchors : Anchors) (name : String) : Anchors × Nat :=
  let number := anchors.length
  if (anchors.lookup name).isSome then
    (anchors.map fun a => if a.1 == name then (name, number) else a, number)
  else (anchors ++ [(name, number)], number)

/-- Adds a node, with its anchor if it has one. -/
def addNode (d : Document) (anchors : Anchors) (anchor : Option String) (node : Node)
    (mark : Mark) : Document × Anchors :=
  let position := d.nodes.size
  let d := { d with nodes := d.nodes.push (node, mark) }
  match anchor with
  | none => (d, anchors)
  | some name =>
    let (anchors, number) := noteAnchor anchors name
    ({ d with targets := (number, position) :: d.targets }, anchors)

/-- Collects the first document, and says whether anything follows it: another document, or a
fault. -/
def collect (fault : Option Fault) (d : Document) (anchors : Anchors) :
    List Event → Document × Bool
  | [] => ({ d with failure := fault.map .malformed }, false)
  | e :: es =>
    let add (anchor : Option String) (node : Node) : Document × Anchors :=
      addNode d anchors anchor node e.mark
    match e.kind with
    | .documentStart => collect fault d anchors es
    | .documentEnd =>
      (d, match es with
        | [] => fault.isSome
        | next :: _ => next.kind != .streamEnd)
    | .streamEnd =>
      (if d.nodes.isEmpty then { d with nodes := #[(.absent, e.mark)] } else d, false)
    | .alias name =>
      match anchors.lookup name with
      | some number => collect fault (add none (.alias number)).1 anchors es
      | none => ({ d with failure := some (.unknownAnchor e.mark) }, false)
    | .scalar anchor tag text style =>
      let (d, anchors) := add anchor (.scalar tag text style)
      collect fault d anchors es
    | .sequenceStart anchor tag =>
      let (d, anchors) := add anchor (.seq tag)
      collect fault d anchors es
    | .sequenceEnd => collect fault (add none .seqEnd).1 anchors es
    | .mappingStart anchor tag =>
      let (d, anchors) := add anchor (.map tag)
      collect fault d anchors es
    | .mappingEnd => collect fault (add none .mapEnd).1 anchors es

/-- The first document of a stream, and whether anything follows it. -/
def ofEvents (s : EventStream) : Document × Bool :=
  collect s.fault ⟨#[], none, []⟩ [] s.events.toList

/-- The deepest nesting of collections. -/
def depthLimit : Nat := 128

/-- How often aliases may be followed. -/
def aliasLimit (d : Document) : Nat := 100 * d.nodes.size

/-- Building a value counts the aliases that it follows. -/
abbrev Build := EStateM Failure Nat

/-- The node at a position. -/
def nodeAt (d : Document) (position : Nat) : Build (Node × Mark) :=
  match d.nodes[position]? with
  | some n => pure n
  | none => throw (d.failure.getD (.malformed (.bare .endOfStream .origin)))

/-- The tag that a value carries on: one that begins with `!` and is a text. -/
def carriedTag? : Option (List UInt8) → Option Tag
  | some (0x21 :: rest) =>
    (Text.utf8? (if rest.isEmpty then [0x21] else rest)).map fun cs => ⟨String.ofList cs⟩
  | _ => none

/-- The tags of the core types, which decide how a scalar is read. -/
def coreTag? (tag : List UInt8) : Option Scalar.CoreTag :=
  let is (name : String) : Bool := tag == Text.utf8 ("tag:yaml.org,2002:" ++ name).toList
  if is "bool" then some .bool
  else if is "int" then some .int
  else if is "float" then some .float
  else if is "null" then some .null
  else none

/-- A scalar. One whose tag is carried by the value is read as if it had none. -/
def scalarValue (tag : Option (List UInt8)) (carried : Bool) (text : String)
    (style : ScalarStyle) : Except Scalar.Rejection Value :=
  let quoted := style != .plain
  match if carried then none else tag with
  | none => if quoted then .ok (.str text) else Scalar.plain text
  | some bytes =>
    match coreTag? bytes with
    | some core => Scalar.ofCoreTag core text
    | none =>
      if bytes.head? == some 0x21 && !quoted then Scalar.plain text else .ok (.str text)

/-- The entry of a mapping that has the same key. -/
def findKey? (entries : Array (Value × Value)) (key : Value) : Option Value :=
  (entries.find? fun e => e.1.same key).map (·.1)

/-- The value at a position, and the position behind it. `depth` is the depth that is left. -/
def build (d : Document) (depth : Nat) (path : Path) (position : Nat) : Build (Value × Nat) := do
  let (node, mark) ← d.nodeAt position
  let reject {α : Type} (why : Objection) (path : Path) (mark : Mark) : Build α :=
    throw (.objection why mark path)
  let (node, mark, path, start, aliased) ← match node with
    | .alias number => do
      let count := (← get) + 1
      set count
      if d.aliasLimit < count then throw .tooManyAliases
      let target := (d.targets.lookup number).getD 0
      let (n, m) ← d.nodeAt target
      pure (n, m, Path.alias path, target, true)
    | n => pure (n, mark, path, position, false)
  let tag := carriedTag? node.tag?
  let (value, stop) ← match node with
    | .scalar raw text style =>
      match scalarValue raw tag.isSome text style with
      | .ok v => pure (v, start + 1)
      | .error why => reject (.scalar why) path mark
    | .seq _ =>
      match depth with
      | 0 => throw (.tooDeep mark)
      | depth + 1 =>
        let mut items : Array Value := #[]
        let mut at' := start + 1
        for _ in [0 : d.nodes.size + 1] do
          match (← d.nodeAt at').1 with
          | .seqEnd => break
          | _ =>
            let (v, next) ← d.build depth (.item path items.size) at'
            items := items.push v
            at' := next
        pure (.seq items.toList, at' + 1)
    | .map _ =>
      match depth with
      | 0 => throw (.tooDeep mark)
      | depth + 1 =>
        let mut entries : Array (Value × Value) := #[]
        let mut at' := start + 1
        for _ in [0 : d.nodes.size + 1] do
          let keyNode := (← d.nodeAt at').1
          match keyNode with
          | .mapEnd => break
          | _ =>
            let (key, next) ← d.build depth path at'
            if let some earlier := findKey? entries key then
              reject (.duplicateKey earlier) path mark
            let below := match keyNode with
              | .scalar _ text _ => Path.entry path text
              | _ => Path.unnamed path
            let (v, next) ← d.build depth below next
            entries := entries.push (key, v)
            at' := next
        pure (.map entries.toList, at' + 1)
    | _ => pure (.null, start + 1)
  let value := match tag with
    | some t => .tagged t value
    | none => value
  return (value, if aliased then position + 1 else stop)

/-- The value of the document. -/
def value (d : Document) : Except Failure Value :=
  match d.build depthLimit .root 0 0 with
  | .ok (v, _) _ =>
    match d.failure with
    | some f => .error f
    | none => .ok v
  | .error f _ => .error f

end Document

end AppConfig.Yaml
