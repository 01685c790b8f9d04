import LargerThanLife.Board.Session
import LargerThanLife.Json.Record
import LargerThanLife.Random.Request
import LargerThanLife.Script.Session
import LargerThanLife.Proofs.Board.Invariant
import LargerThanLife.Proofs.Board.Neighbours
import LargerThanLife.Proofs.Board.Generation
import LargerThanLife.Proofs.Board.Observation
import LargerThanLife.Proofs.Board.History
import LargerThanLife.Proofs.Validation
import LargerThanLife.Proofs.Text.Spelling
import LargerThanLife.Proofs.Values
import LargerThanLife.Proofs.Record.Validity
import LargerThanLife.Proofs.Rulestring.Grammar
import LargerThanLife.Proofs.Rulestring.NormalForm
import LargerThanLife.Proofs.Json.RoundTrip
import LargerThanLife.Proofs.Board.Plane
import LargerThanLife.Proofs.Board.Propagation
import LargerThanLife.Proofs.Board.Translation
import LargerThanLife.Proofs.Board.Picture
import LargerThanLife.Proofs.Board.Reflection
import LargerThanLife.Proofs.Random.Sampler
import LargerThanLife.Proofs.Random.Ruleset
import LargerThanLife.Proofs.Sources
import LargerThanLife.Proofs.Neighbourhood.Count
import LargerThanLife.Proofs.Board.Equivalence
import LargerThanLife.Proofs.Board.Decay
import LargerThanLife.Proofs.Machine.Board
import LargerThanLife.Proofs.Machine.Cell
import LargerThanLife.Proofs.Machine.Exactness
import LargerThanLife.Proofs.Json.Grammar
import LargerThanLife.Proofs.Json.Scanner
import LargerThanLife.Proofs.Json.Tree
import LargerThanLife.Proofs.Json.Written
import LargerThanLife.Proofs.Json.Members
import LargerThanLife.Proofs.Json.Forms
import LargerThanLife.Proofs.Board.Edits
import LargerThanLife.Proofs.Board.Refusal
import LargerThanLife.Proofs.Board.Census
import LargerThanLife.Proofs.Board.Extinction
import LargerThanLife.Proofs.Board.TwoStates
import LargerThanLife.Proofs.Board.Monotone
import LargerThanLife.Proofs.Board.Clipping
import LargerThanLife.Proofs.Board.Views
import LargerThanLife.Proofs.Board.Population
import LargerThanLife.Proofs.Random.Uniform
import LargerThanLife.Proofs.Random.Unseeded
import LargerThanLife.Proofs.Board.Fill
import LargerThanLife.Proofs.Machine.Neighbourhood
import LargerThanLife.Proofs.Script.Datum
import LargerThanLife.Proofs.Script.Dictionary
