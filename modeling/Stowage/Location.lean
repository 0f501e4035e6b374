import Stowage.Attributes

/-!
Physical locations: the chunks that a file is read from or written to. What the stack knows about
a chunk travels in its attributes.
-/
namespace Stowage

/-- One contiguous piece of a location. -/
structure Chunk where
  host : String := ""
  path : String := ""
  offset : Nat := 0
  size : Nat := 0
  attrs : Attributes := ∅
  deriving Repr, Inhabited

namespace Chunk

def poolKey : String := "pool"
def replicaKey : String := "replicaid"
/-- The logical name of the file. -/
def nameKey : String := "sfn"
def tokenKey : String := "token"
def filesystemKey : String := "filesystem"

def token? (chunk : Chunk) : Option String :=
  (chunk.attrs.get? tokenKey).bind Json.str?

/-- The chunk with one more attribute. -/
def tag (chunk : Chunk) (key : String) (value : Json) : Chunk :=
  { chunk with attrs := chunk.attrs.insert key value }

def display (chunk : Chunk) : String :=
  chunk.host ++ ":" ++ chunk.path ++ " (" ++ Text.ofInt chunk.offset ++ "+" ++
    Text.ofInt chunk.size ++ ")"

end Chunk

structure Location where
  chunks : List Chunk := []
  deriving Repr, Inhabited

namespace Location

def isEmpty (location : Location) : Bool :=
  location.chunks.isEmpty

def first (location : Location) : Except Error Chunk :=
  match location.chunks with
  | [] => .error (.invalidArgument "empty location")
  | chunk :: _ => .ok chunk

/-- The replica that the location was resolved from, if it is one to read from. -/
def replicaId? (location : Location) : Option Int := do
  let chunk ← location.chunks.head?
  (← chunk.attrs.get? Chunk.replicaKey).i64?

/-- The location with one more attribute on every chunk. -/
def tag (location : Location) (key : String) (value : Json) : Location :=
  ⟨location.chunks.map (·.tag key value)⟩

end Location
end Stowage
