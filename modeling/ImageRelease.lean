import ImageRelease.Main
import ImageRelease.Records
import ImageRelease.Service
import ImageRelease.Proofs.Session.Plan
import ImageRelease.Proofs.Session.Commands
import ImageRelease.Proofs.Session.Lookup
import ImageRelease.Proofs.Release.Stages
import ImageRelease.Proofs.Release.Course
import ImageRelease.Proofs.Release.FailFast
import ImageRelease.Proofs.Release.Timings
import ImageRelease.Proofs.Release.Guard
import ImageRelease.Proofs.Masking
import ImageRelease.Proofs.Session.Twins
import ImageRelease.Proofs.Release.Twins
import ImageRelease.Proofs.Session.Telling
import ImageRelease.Proofs.Release.History
import ImageRelease.Proofs.Release.Secrecy
import ImageRelease.Proofs.Release.Registration
import ImageRelease.Proofs.Version
import ImageRelease.Proofs.Release.Turns
import ImageRelease.Proofs.Release.TurnFailures
import ImageRelease.Proofs.Release.OnRecord
import ImageRelease.Proofs.Release.Push
import ImageRelease.Proofs.Session.Sure
import ImageRelease.Proofs.Release.Rehearsal
import ImageRelease.Proofs.Release.OneVersion
import ImageRelease.Proofs.Session.Peers
import ImageRelease.Proofs.Release.Reuse
import ImageRelease.Proofs.Surfaces
import ImageRelease.Proofs.Planning
import ImageRelease.Proofs.Assignments
import ImageRelease.Proofs.Release.Permission
import ImageRelease.Proofs.Triggers
import ImageRelease.Proofs.Agreement
import ImageRelease.Proofs.WrittenEntries
import ImageRelease.Proofs.VersionFile
import ImageRelease.Proofs.WholeMasks
import ImageRelease.Proofs.Session.Logins
import ImageRelease.Proofs.BuildLine
import ImageRelease.Proofs.Tags
import ImageRelease.Proofs.Outputs
import ImageRelease.Proofs.TagParts
import ImageRelease.Proofs.Redaction
import ImageRelease.Proofs.Release.Registries
import ImageRelease.Proofs.Release.StepLog
import ImageRelease.Proofs.Release.SecretList
