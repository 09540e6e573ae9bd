import DeviceShell.Command.Printer
import DeviceShell.Files.Tree
import DeviceShell.Main
import DeviceShell.Proofs.Device.Schema
import DeviceShell.Proofs.Session.Displaced
import DeviceShell.Proofs.Session.Failures
import DeviceShell.Proofs.Session.Frame
import DeviceShell.Proofs.Session.LeftBehind
import DeviceShell.Proofs.Session.ReadBack
import DeviceShell.Proofs.ScriptFolder
import DeviceShell.Proofs.Session.Replacement
import DeviceShell.Proofs.Files.Child
import DeviceShell.Proofs.Session.OneFile
import DeviceShell.Proofs.Session.Locality
import DeviceShell.Proofs.Session.EitherOrder
import DeviceShell.Proofs.Session.LastOrder
import DeviceShell.Proofs.Session.Unhandled
import DeviceShell.Proofs.Session.Snapshot
import DeviceShell.Proofs.Session.Described
import DeviceShell.Proofs.Session.Configured
import DeviceShell.Proofs.Program
import DeviceShell.Proofs.Command.Calls
import DeviceShell.Proofs.Session.QuotedText
import DeviceShell.Proofs.Session.Addressable
import DeviceShell.Proofs.Device.Reset
import DeviceShell.Proofs.Session.Transaction
import DeviceShell.Proofs.Session.Arguments
import DeviceShell.Proofs.Device.Assignment
import DeviceShell.Proofs.Command.Surroundings
import DeviceShell.Proofs.Session.ReadOrCall
import DeviceShell.Proofs.Membership.Registry
import DeviceShell.Proofs.Membership.TaskMonitor
