import Mosaic.Canvas.Basic

/-!
A canvas that draws nothing.  It records the calls made on it, and every figure,
grid and axis is known by the number of its call.  One call may be refused, and
a refused call is not recorded.
-/

namespace Mosaic

inductive CanvasCall (α : Type) where
  | figure (size : FigureSize α) (dpi : α)
  | grid (figure : Nat) (parent : Option (Nat × Nat)) (request : GridRequest α)
  | axis (figure : Nat) (parent : Option (Nat × Nat))
  deriving DecidableEq, Repr

/-- Which call is refused, and with which fault. -/
structure Refusal where
  call : Nat
  fault : Fault
  deriving DecidableEq, Repr

/-- The canvas itself refuses call number `call`. -/
def Refusal.byCanvas (call : Nat) : Refusal :=
  ⟨call, .canvas (.refused s!"call {call} refused")⟩

/-- Call number `call` fails for reasons outside the canvas. -/
def Refusal.byTransfer (call : Nat) : Refusal :=
  ⟨call, .transfer s!"call {call} refused"⟩

/-- Record a call, unless it is the refused one. -/
def recordCall {α : Type} (refusal : Option Refusal) (made : CanvasCall α) :
    EStateM Fault (List (CanvasCall α)) Nat := do
  let calls ← get
  match refusal with
  | some refusal =>
    if refusal.call = calls.length then throw refusal.fault
    else
      set (calls ++ [made])
      return calls.length
  | none =>
    set (calls ++ [made])
    return calls.length

def Canvas.recorder (α : Type) (refusal : Option Refusal) :
    Canvas α (List (CanvasCall α)) Nat Nat Nat where
  figure size dpi := recordCall refusal (.figure size dpi)
  grid figure parent request := recordCall refusal (.grid figure parent request)
  axis figure parent := recordCall refusal (.axis figure parent)

end Mosaic
