import Typings.Main
import Typings.Proofs.BuildOutcome
import Typings.Proofs.DocumentationErasure
import Typings.Proofs.MemberLines
import Typings.Proofs.TypeReading
import Typings.Settings.LogFilter
import Typings.Proofs.SameOutcome
import Typings.Proofs.TypeWords
import Typings.Proofs.FileBlocks
import Typings.Proofs.ContextReferences
import Typings.Proofs.PropertyFrame
import Typings.Proofs.Counting
import Typings.Proofs.InputOrder
import Typings.Proofs.Extension
import Typings.Proofs.MarkerSpelling
import Typings.Proofs.RecordMembers
import Typings.Proofs.WrittenEntries
import Typings.Proofs.FaultPaths
import Typings.Proofs.ContextGathering
import Typings.Proofs.Files.Changes
import Typings.Proofs.TemplateScopes
import Typings.Proofs.ArgumentSwitches
import Typings.Proofs.RunEffects
import Typings.Proofs.OutputCheck
import Typings.Proofs.RunModes
import Typings.Proofs.TypeShapes
import Typings.Proofs.CommentReading
import Typings.Proofs.CanonicalNames
import Typings.Proofs.ContextNames
import Typings.Proofs.CollisionReports
import Typings.Proofs.ReturnTypePlaces
import Typings.Proofs.NumericLiterals
import Typings.Proofs.SettingsSources
import Typings.Proofs.NameAlgebra
import Typings.Proofs.Diff.Texts
