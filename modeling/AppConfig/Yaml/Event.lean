import AppConfig.Yaml.Token

/-!
# AppConfig.Yaml.Event

Events: the nodes of the documents in a stream, as they begin and end in the text.
-/

namespace AppConfig.Yaml

inductive EventKind where
  | documentStart
  | documentEnd
  | streamEnd
  | alias (name : String)
  | scalar (anchor : Option String) (tag : Option (List UInt8)) (text : String)
      (style : ScalarStyle)
  | sequenceStart (anchor : Option String) (tag : Option (List UInt8))
  | sequenceEnd
  | mappingStart (anchor : Option String) (tag : Option (List UInt8))
  | mappingEnd
  deriving DecidableEq, Repr

/-- An event and the place where it begins. -/
structure Event where
  kind : EventKind
  mark : Mark
  deriving DecidableEq, Repr

/-- The events up to the end of the stream or the first fault. -/
structure EventStream where
  events : Array Event
  fault : Option Fault

end AppConfig.Yaml
