import DekiMigration.Database.Connection
import DekiMigration.Main
import DekiMigration.Service
import DekiMigration.Proofs.Markup.Replacement
import DekiMigration.Proofs.Markup.LinkForms
import DekiMigration.Proofs.Markup.EmptyLinks
import DekiMigration.Proofs.Markup.LinkContent
import DekiMigration.Proofs.Markup.HeadingLevels
import DekiMigration.Proofs.Markup.HeadingContent
import DekiMigration.Proofs.Markup.Shape
import DekiMigration.Proofs.Markup.HeadingLine
import DekiMigration.Proofs.Markup.TableRows
import DekiMigration.Proofs.Markup.Contents
import DekiMigration.Proofs.Markup.Dashes
import DekiMigration.Proofs.Markup.SingleLink
import DekiMigration.Proofs.LinkTargets
import DekiMigration.Proofs.Disk
import DekiMigration.Proofs.WrittenPages
import DekiMigration.Proofs.Markup.Calls
import DekiMigration.Proofs.Markup.Separation
import DekiMigration.Proofs.Markup.Suppression
import DekiMigration.Proofs.ConvertedPages
import DekiMigration.Proofs.Markup.TemplateCalls
import DekiMigration.Proofs.ExportOrder
import DekiMigration.Proofs.ServiceAgreement
import DekiMigration.Proofs.Timestamp
import DekiMigration.Proofs.Timestamp.Iso
import DekiMigration.Proofs.ExportReading
import DekiMigration.Proofs.RevisionTimes
import DekiMigration.Proofs.RunEnding
import DekiMigration.Proofs.Paging
import DekiMigration.Proofs.ServiceFailures
import DekiMigration.Proofs.Steps
import DekiMigration.Proofs.Markup.Splice
import DekiMigration.Proofs.CreatedPlaces
import DekiMigration.Proofs.Markup.PlainCalls
import DekiMigration.Proofs.JsonTexts
import DekiMigration.Proofs.SnippetRequests
import DekiMigration.Proofs.EndOrder
import DekiMigration.Proofs.IndependentPages
import DekiMigration.Proofs.Markup.OnePass
import DekiMigration.Proofs.DryRun
import DekiMigration.Proofs.Report
import DekiMigration.Proofs.Preparation
import DekiMigration.Proofs.Text.Quoted
import DekiMigration.Proofs.Text.Lines
import DekiMigration.Proofs.Markup.TableRules
import DekiMigration.Proofs.Markup.TableLines
import DekiMigration.Proofs.Markup.EmptyTables
import DekiMigration.Proofs.Markup.CategoryLinks
import DekiMigration.Proofs.Markup.StableCalls
import DekiMigration.Proofs.Timestamp.Digits
import DekiMigration.Proofs.Text.Number
import DekiMigration.Proofs.Timestamp.Forms
import DekiMigration.Proofs.Timestamp.Cuts
import DekiMigration.Proofs.Calendar
import DekiMigration.Proofs.Timestamp.Instants
import DekiMigration.Proofs.LatestRevision
import DekiMigration.Proofs.ContributorIds
