import MarkdownLayout.Loading.Dispatch

/-!
Dispatches side by side. Each watches one of several generation counters; moving a counter on silences the
dispatches that watch it, whoever made them.
-/

namespace MarkdownLayout

structure PostedDispatch where
  counter : Nat
  dispatch : Dispatch
  deriving DecidableEq, Repr, Inhabited

inductive DispatchMove where
  | begin (number : Nat)
  | deliver (number : Nat) (completion : Completion)
  deriving Inhabited

namespace DispatchMove

def number : DispatchMove → Nat
  | begin n => n
  | deliver n _ => n

/-- The order in which moves that came in together are made: a dispatch takes up all that waits for it
before the next one runs. -/
def gathered : List DispatchMove → List DispatchMove
  | [] => []
  | first :: rest =>
    (first :: rest.filter fun m => m.number == first.number) ++
      gathered (rest.filter fun m => m.number != first.number)
termination_by moves => moves.length
decreasing_by
  simp only [List.length_unattach, List.length_cons]
  exact Nat.lt_succ_of_le (Nat.le_trans (List.length_filter_le _ _) (by simp))

end DispatchMove

def Dispatch.move (current : Generation) (dispatch : Dispatch) : DispatchMove → Dispatch × List LoadReport
  | .begin _ => dispatch.begin
  | .deliver _ completion => dispatch.receive current completion

structure DispatchBoard where
  counters : List Generation := []
  dispatches : List PostedDispatch := []
  deriving DecidableEq, Repr, Inhabited

namespace DispatchBoard

def generation (board : DispatchBoard) (counter : Nat) : Generation :=
  board.counters[counter]?.getD .first

def invalidate (board : DispatchBoard) (counter : Nat) : DispatchBoard :=
  { board with counters := board.counters.set counter (board.generation counter).next }

def post (board : DispatchBoard) (counter : Nat) (images : List PendingImage) : DispatchBoard :=
  let dispatch : Dispatch := { generation := board.generation counter, images }
  { board with dispatches := board.dispatches ++ [⟨counter, dispatch⟩] }

def move (board : DispatchBoard) (m : DispatchMove) : DispatchBoard × List LoadReport :=
  match board.dispatches[m.number]? with
  | none => (board, [])
  | some posted =>
    let (dispatch, reports) := posted.dispatch.move (board.generation posted.counter) m
    ({ board with dispatches := board.dispatches.set m.number { posted with dispatch } }, reports)

def run (board : DispatchBoard) : List DispatchMove → DispatchBoard × List (Nat × LoadReport)
  | [] => (board, [])
  | m :: rest =>
    let (moved, reports) := board.move m
    let (final, later) := moved.run rest
    (final, reports.map (m.number, ·) ++ later)

end DispatchBoard

end MarkdownLayout
