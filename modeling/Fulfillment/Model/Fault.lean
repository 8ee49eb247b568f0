/-!
# Faults

A `Fault` says why an operation failed. Its `message` is the text a client sees, and its
`classes` are the kinds of failure a caller can test for: a request the rules reject, a missing
record, a stage move the lifecycle forbids, a write against a stale version, a record that
already exists, a service that cannot be reached, an internal processing error.

Context only adds words: `within "persist order" f` reads `persist order: <f>` and keeps the
classes of `f`. `marked f c` adds class `c` and its words at the end, `flagged t c` puts the
words of `c` after a plain text and has class `c` alone. `permanent f` marks the answer `f` of
a remote service as its word and not its failure; it reads as `f`, and `asPermanent` finds the
mark along the faults a fault wraps.

`Fault.kind` is the first class in the order validation, missing, transition, stale version,
duplicate, unavailable, internal processing; a fault with no class has no kind.
-/

namespace Fulfillment

/-- The kinds of failure a caller can tell apart, in the order they are tested. -/
inductive FaultClass where
  | validation
  | notFound
  | invalidTransition
  | concurrentUpdate
  | alreadyExists
  | serviceUnavailable
  | internalProcessing
  deriving DecidableEq, Inhabited, Repr

namespace FaultClass

/-- All classes, in the order they are tested. -/
def all : List FaultClass :=
  [validation, notFound, invalidTransition, concurrentUpdate, alreadyExists,
    serviceUnavailable, internalProcessing]

/-- The words of a class. -/
def text : FaultClass → String
  | validation => "validation failed"
  | notFound => "not found"
  | invalidTransition => "invalid state transition"
  | concurrentUpdate => "concurrent modification"
  | alreadyExists => "already exists"
  | serviceUnavailable => "service unavailable"
  | internalProcessing => "internal processing error"

end FaultClass

/-- The kinds of record a fault can name. -/
inductive Entity where
  | order
  | payment
  | customer
  deriving DecidableEq, Inhabited, Repr

/-- The name of a kind of record. -/
def Entity.name : Entity → String
  | .order => "order"
  | .payment => "payment"
  | .customer => "customer"

/-- Why an operation failed. -/
inductive Fault where
  /-- A request the rules reject. -/
  | invalid (detail : String)
  /-- A record that is not there. -/
  | missing (entity : Entity)
  /-- A stage move the lifecycle forbids. -/
  | transition (entity : Entity) (id : Int) (source target : String)
  /-- A write made against a version that is no longer stored. -/
  | stale (entity : Entity) (id version stored : Int)
  /-- The words of a class alone. -/
  | bare (c : FaultClass)
  /-- A plain text with no class. -/
  | note (text : String)
  /-- Words put in front of a fault. -/
  | within (context : String) (inner : Fault)
  /-- A fault with a class and its words added at the end. -/
  | marked (inner : Fault) (c : FaultClass)
  /-- A plain text followed by the words of a class. -/
  | flagged (text : String) (c : FaultClass)
  /-- Words put after a fault. -/
  | suffixed (inner : Fault) (suffix : String)
  /-- A remote's answer marked so that a client breaker does not count it as a failure. -/
  | permanent (inner : Fault)
  deriving Inhabited, Repr

namespace Fault

/-- The text a client sees. -/
def message : Fault → String
  | invalid detail => "validation failed: " ++ detail
  | missing e => e.name ++ " not found"
  | transition e id source target =>
    e.name ++ " " ++ toString id ++ ": cannot transition from " ++ source ++ " to " ++ target
  | stale e id version stored =>
    e.name ++ " " ++ toString id ++ " version " ++ toString version ++ ", stored " ++
      toString stored ++ ": concurrent modification"
  | bare c => c.text
  | note t => t
  | within context inner => context ++ ": " ++ inner.message
  | marked inner c => inner.message ++ ": " ++ c.text
  | flagged t c => t ++ ": " ++ c.text
  | suffixed inner suffix => inner.message ++ suffix
  | permanent inner => inner.message

/-- The classes a fault belongs to. -/
def classes : Fault → List FaultClass
  | invalid _ => [.validation]
  | missing _ => [.notFound]
  | transition .. => [.invalidTransition]
  | stale .. => [.concurrentUpdate]
  | bare c => [c]
  | note _ => []
  | within _ inner => inner.classes
  | marked inner c => inner.classes ++ [c]
  | flagged _ c => [c]
  | suffixed inner _ => inner.classes
  | permanent inner => inner.classes

/-- Whether a fault belongs to a class. -/
def isA (f : Fault) (c : FaultClass) : Bool := f.classes.contains c

/-- The first class of a fault in the testing order. -/
def kind (f : Fault) : Option FaultClass := FaultClass.all.find? f.isA

/-- The answer inside the first permanent mark found along the faults a fault wraps, outermost
first. -/
def asPermanent : Fault → Option Fault
  | permanent inner => some inner
  | within _ inner => inner.asPermanent
  | marked inner _ => inner.asPermanent
  | suffixed inner _ => inner.asPermanent
  | _ => none

end Fault

end Fulfillment
