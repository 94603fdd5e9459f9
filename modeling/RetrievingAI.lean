import RetrievingAI.Lib.Machine
import RetrievingAI.Lib.Mover
import RetrievingAI.Lib.Pool
import RetrievingAI.Engine
import RetrievingAI.EngineFunctions
import RetrievingAI.Chest
import RetrievingAI.World
import RetrievingAI.ChestCycle
import RetrievingAI.ChestLid
import RetrievingAI.ChestTime
import RetrievingAI.Effect
import RetrievingAI.Defaults
import RetrievingAI.FetchRefinement
import RetrievingAI.Ownership
import RetrievingAI.HeldBalls
import RetrievingAI.Retrieval
import RetrievingAI.Accounting
import RetrievingAI.Aim
import RetrievingAI.Hints
import RetrievingAI.OneHint
import RetrievingAI.Faults
import RetrievingAI.Launch
import RetrievingAI.Collision
import RetrievingAI.ChestsInGame
import RetrievingAI.BallScript
import RetrievingAI.Playing
import RetrievingAI.Recovery
import RetrievingAI.ChestSupply
import RetrievingAI.FetchTraces
import RetrievingAI.FrameRate
import RetrievingAI.ChestFrame
import RetrievingAI.Preview
import RetrievingAI.Retrievers
import RetrievingAI.Posting
import RetrievingAI.BallObstacles
import RetrievingAI.Lib.Behaviour
import RetrievingAI.Delivery
import RetrievingAI.ChestService
