import Decodables.Command.Session
import Decodables.Declaration.Survey
import Decodables.Main
import Decodables.Proofs.DocumentConversion
import Decodables.Proofs.Likeness
import Decodables.Proofs.WordSplitting
import Decodables.Proofs.PayloadReading
import Decodables.Proofs.RunOutcome
import Decodables.Proofs.Shadowing
import Decodables.Proofs.SourceReading
import Decodables.Proofs.Rederivation
import Decodables.Proofs.UsableNames
import Decodables.Proofs.Swift.Introduction
import Decodables.Proofs.Keywords
import Decodables.Proofs.LeadingMarks
import Decodables.Proofs.DepthFailure
import Decodables.Proofs.ArrayRemarks
import Decodables.Proofs.PathReading
import Decodables.Proofs.Swift.Layout
import Decodables.Proofs.EntryNames
import Decodables.Proofs.EntryOrder
import Decodables.Proofs.SharedWarnings
import Decodables.Proofs.CountedSearch
import Decodables.Proofs.WarningLines
