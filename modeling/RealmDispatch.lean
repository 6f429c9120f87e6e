import RealmDispatch.Log.Logger
import RealmDispatch.Scenario.Play
import RealmDispatch.Text.Utf8
import RealmDispatch.Proofs.AgendaOrder
import RealmDispatch.Proofs.RealmCourse
import RealmDispatch.Proofs.RegistryRecords
import RealmDispatch.Proofs.TrackerRefinement
import RealmDispatch.Proofs.CallProvenance
import RealmDispatch.Proofs.DispatchOutcomes
import RealmDispatch.Proofs.TrackerHistory
import RealmDispatch.Proofs.WorldInterleaving
import RealmDispatch.Proofs.LocalSteps
import RealmDispatch.Proofs.DispatcherRuns
import RealmDispatch.Proofs.BootOutcomes
import RealmDispatch.Proofs.RunHistory
import RealmDispatch.Proofs.SavedRegisters
import RealmDispatch.Proofs.WorldRoundTrip
import RealmDispatch.Proofs.CompletionMatching
import RealmDispatch.Proofs.RestartedCreation
import RealmDispatch.Proofs.LiveRealms
import RealmDispatch.Proofs.TimerProgramming
import RealmDispatch.Proofs.StaleTimer
import RealmDispatch.Proofs.FailedBoot
import RealmDispatch.Proofs.PendingEntries
import RealmDispatch.Proofs.CallMatching
import RealmDispatch.Proofs.ManagerImage
import RealmDispatch.Proofs.BootFailures
import RealmDispatch.Proofs.EntryBrackets
import RealmDispatch.Proofs.CallDispositions
import RealmDispatch.Proofs.CoreIsolation
import RealmDispatch.Proofs.AlikeMachines
import RealmDispatch.Proofs.CoreCommutation
import RealmDispatch.Proofs.TrackerIndependence
import RealmDispatch.Proofs.HaltConditions
import RealmDispatch.Proofs.CallRefusals
import RealmDispatch.Proofs.FiredTimer
import RealmDispatch.Proofs.ServiceOrder
import RealmDispatch.Proofs.TimerIssues
import RealmDispatch.Proofs.AgendaHistory
import RealmDispatch.Proofs.RealmCommutation
import RealmDispatch.Proofs.Histories
import RealmDispatch.Proofs.LostDeadlines
import RealmDispatch.Proofs.ServiceAnswers
import RealmDispatch.Proofs.RegistryHistory
import RealmDispatch.Proofs.ConsoleRouting
import RealmDispatch.Proofs.LogOutput
