/-
Actions on call buffers and on single cells of memory.
-/
import CallBridge.Session.Function

namespace CallBridge

namespace Session

/-- Act on a call buffer; a failed action leaves it as it is. -/
def BufferAction.run (a : Arena) :
    BufferAction → Except Panic (Except Error (Slot ⊕ Bytes)) × Arena
  | slot i => (.ok ((a.argumentSlot i).map .inl), a)
  | read offset size alignment => ((a.slotBytes ⟨offset, size, alignment⟩).map (·.map .inr), a)
  | write offset size alignment bs =>
    let target : Slot := ⟨offset, size, alignment⟩
    match a.fillSlot target bs with
    | .error p => (.error p, a)
    | .ok (.error e) => (.ok (.error e), a)
    | .ok (.ok changed) => (.ok ((changed.read target).map .inr), changed)

def bufferResults : List BufferAction → Arena → List (Except Panic (Except Error (Slot ⊕ Bytes)))
  | [], _ => []
  | action :: rest, a =>
    let (result, next) := action.run a
    result :: bufferResults rest next

/-- Act on a cell; what was read is told apart from what was only done. -/
def cellResults (m : Memory) :
    List CellAction → RawBuffer → List (Except Error (Option Reading)) × RawBuffer
  | [], b => ([], b)
  | .read how :: rest, b =>
    let (results, final) := cellResults m rest b
    ((how.read m b).map some :: results, final)
  | .act a :: rest, b =>
    match a.run m [] b with
    | .ok changed =>
      let (results, final) := cellResults m rest changed
      (.ok none :: results, final)
    | .error e =>
      let (results, final) := cellResults m rest b
      (.error e :: results, final)

end Session

end CallBridge
