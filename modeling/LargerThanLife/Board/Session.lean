import LargerThanLife.Board.Operation

/-! A session with one board. Besides the board it keeps a copy that can be gone back to, and a
generator that fills draw from and that goes on from one fill to the next. Saving and restoring do
not touch the generator. -/

namespace LargerThanLife

structure Session where
  board : Board
  saved : Board
  generator : Generator

inductive Session.Request where
  | operate (op : Operation)
  /-- fill the board from the session's own generator -/
  | fill
  | save
  | restore
  | ask (query : Query)
  | describe

inductive Session.Response where
  /-- the board after a change, or after one that was refused for a fault -/
  | changed (fault : Option Fault) (board : Board)
  | answered (outcome : Except Fault Answer)
  | described (board : Board)

namespace Session

/-- A session with a new board, of which a copy is kept. -/
def start (board : Board) (seed : UInt64) : Session := ⟨board, board, Generator.ofSeed seed⟩

def respond (s : Session) : Request → Response × Session
  | .operate op =>
    match s.board.apply op with
    | .ok board => (.changed none board, { s with board })
    | .error fault => (.changed (some fault) s.board, s)
  | .fill =>
    let (board, generator) := s.board.fill s.generator
    (.changed none board, { s with board, generator })
  | .save => (.changed none s.board, { s with saved := s.board })
  | .restore => (.changed none s.saved, { s with board := s.saved })
  | .ask query => (.answered (s.board.ask query), s)
  | .describe => (.described s.board, s)

def responses (s : Session) : List Request → List Response
  | [] => []
  | request :: rest =>
    let (response, next) := s.respond request
    response :: next.responses rest

end Session

end LargerThanLife
