import MeterUplink.Journal
import MeterUplink.Payload

namespace MeterUplink

/-! Chunks: consecutive pieces of a payload, one for each frame. -/

/-- Pieces of `size + 1` elements, the last one possibly shorter. -/
def piecesOf {α : Type} (size : Nat) : List α → List (List α)
  | [] => []
  | first :: rest =>
    (first :: rest.take size) :: piecesOf size (rest.drop size)
termination_by elements => elements.length
decreasing_by
  rw [List.length_drop, List.length_cons]
  omega

/-- Cutting loses nothing. -/
@[simp] theorem flatten_piecesOf {α : Type} (size : Nat) (elements : List α) :
    (piecesOf size elements).flatten = elements := by
  fun_induction piecesOf size elements with
  | case1 => rfl
  | case2 first rest ih => simp [ih]

structure Chunks where
  texts : List String
deriving Repr, DecidableEq

namespace Chunks

def count (chunks : Chunks) : Nat := chunks.texts.length

def isEmpty (chunks : Chunks) : Bool := chunks.texts.isEmpty

def get? (chunks : Chunks) (index : Nat) : Option String := chunks.texts[index]?

/-- The payload that the chunks were cut from. -/
def concat (chunks : Chunks) : String := String.join chunks.texts

end Chunks

/-- The pieces of `length` characters. -/
def Payload.cut (payload : Payload) (length : Nat) : Except PayloadError Chunks :=
  match length with
  | 0 => .error .invalidChunkLength
  | size + 1 => .ok ⟨(piecesOf size payload.text.toList).map String.ofList⟩

def Payload.chunks (payload : Payload) (length : Nat) : Journaled PayloadError Chunks := do
  let chunks ← Journaled.ofExcept (payload.cut length)
  Journaled.emit .debug .chunking
    s!"Payload of {payload.length} characters split into {chunks.count} chunks"
  pure chunks

end MeterUplink
