import MotionTutor.Files.Disk
import MotionTutor.Main
import MotionTutor.Session.Text
import MotionTutor.Proofs.Command.Grammar
import MotionTutor.Proofs.Checked.Simulation
import MotionTutor.Proofs.Simulation.Composition
import MotionTutor.Proofs.Simulation.Counts
import MotionTutor.Proofs.Simulation.Searches
import MotionTutor.Proofs.Session.Opening
import MotionTutor.Proofs.Session.Victory
import MotionTutor.Proofs.Stats.Practice
import MotionTutor.Proofs.Session.Lessons
import MotionTutor.Proofs.Session.Practice
import MotionTutor.Proofs.Practice.Draw
import MotionTutor.Proofs.Practice.Mastery
import MotionTutor.Proofs.Session.Drill
import MotionTutor.Proofs.Session.Scores
import MotionTutor.Proofs.Catalog.Directory
import MotionTutor.Proofs.Json.Document
import MotionTutor.Proofs.Json.Record
import MotionTutor.Proofs.Stats.Record
import MotionTutor.Proofs.Judge.Verdict
import MotionTutor.Proofs.Travel.Landing
import MotionTutor.Proofs.Travel.Rounds
import MotionTutor.Proofs.Store.Safety
import MotionTutor.Proofs.Cli.Recording
import MotionTutor.Proofs.Simulation.Products
import MotionTutor.Proofs.Simulation.Errands
import MotionTutor.Proofs.Simulation.Operators
import MotionTutor.Proofs.Simulation.UnderCursor
import MotionTutor.Proofs.Command.Prefix
import MotionTutor.Proofs.Selection.Brackets
import MotionTutor.Proofs.Selection.Quotes
import MotionTutor.Proofs.Selection.Elements
import MotionTutor.Proofs.Selection.Runs
import MotionTutor.Proofs.Selection.Sentences
import MotionTutor.Proofs.Selection.Around
import MotionTutor.Proofs.Simulation.ToLineEnd
import MotionTutor.Proofs.Simulation.Lines
import MotionTutor.Proofs.Session.Starting
import MotionTutor.Proofs.Session.Answers
import MotionTutor.Proofs.Session.Drawn
import MotionTutor.Proofs.Session.Fight
import MotionTutor.Proofs.Session.Streaks
import MotionTutor.Proofs.Session.Unasked
import MotionTutor.Proofs.Practice.Shares
import MotionTutor.Proofs.Practice.Remaining
import MotionTutor.Proofs.Practice.Weights
import MotionTutor.Proofs.Practice.Weakest
import MotionTutor.Proofs.Checked.Spans
import MotionTutor.Proofs.Fields.Practice
