import Phrasebook.Yaml.Token

/-! What a YAML document consists of: scalars, sequences and mappings, some of which stand in more than
one place. -/

namespace Phrasebook.Yaml

/-- A node of a document. An alias stands for a node that carries an anchor. -/
inductive Node where
  | scalar (tag : Option (List Char)) (style : ScalarStyle) (text : List Char)
  | sequence (tag : Option (List Char)) (items : List Node)
  | mapping (tag : Option (List Char)) (members : List (Node × Node))
  | alias (anchor : Nat)

namespace Node

/-- The node where nothing is written. -/
def absent : Node :=
  .scalar none .plain []

mutual

/-- The number of events in a node: a collection has one at its start and one at its end. -/
def events : Node → Nat
  | .scalar .. => 1
  | .alias _ => 1
  | .sequence _ items => eventsOf items + 2
  | .mapping _ members => memberEvents members + 2

/-- The number of events in the items of a sequence. -/
def eventsOf : List Node → Nat
  | [] => 0
  | item :: rest => item.events + eventsOf rest

/-- The number of events in the members of a mapping. -/
def memberEvents : List (Node × Node) → Nat
  | [] => 0
  | (key, value) :: rest => key.events + value.events + memberEvents rest

end

end Node

/-- A document: its node, unless there is nothing at all, and the nodes that aliases stand for. -/
structure Document where
  root : Option Node
  anchored : List (Nat × Node) := []

namespace Document

/-- The node that carries an anchor. -/
def node? (document : Document) (anchor : Nat) : Option Node :=
  (document.anchored.find? fun entry => entry.1 = anchor).map Prod.snd

/-- The number of events in a document. -/
def events (document : Document) : Nat :=
  match document.root with
  | some root => root.events
  | none => 1

end Document

end Phrasebook.Yaml
